import TaskSieve.Proofs.Evidence.Collecting
import TaskSieve.Proofs.Evidence.Rounds
import TaskSieve.Proofs.Text.Blank
import TaskSieve.Web.PushHistory

/-!
# How the predictor is asked on the web

A call that finds nothing remembered sends one request a round.  It sends the
request again only after the status 202, and only while the limit leaves room
for it; the first response with another status decides what the call answers.
Evidence and timeouts are remembered, refusals and replies that cannot be read
are not.
-/

namespace TaskSieve

namespace Client

variable {client : Client} {branch revision : String} {before : State}
  {result : Except Failure Evidence × State}

/-- A call left something to remember: nothing else changed in what is
remembered, and the same call again answers the same and does nothing. -/
def Remembers (client : Client) (branch revision : String) (before : State)
    (result : Except Failure Evidence × State) (value : Remembered) : Prop :=
  result.1 = value.told branch revision ∧
    result.2.cache = before.cache.insert ⟨branch, revision, 1⟩ value ∧
    client.evidenceOf branch revision result.2 = result

/-- A call failed and left nothing to remember: the same call again begins with
a request. -/
def Fails (client : Client) (branch revision : String) (before : State)
    (result : Except Failure Evidence × State) (error : EvidenceError) : Prop :=
  result.1 = .error (.evidence error) ∧ result.2.cache = before.cache ∧
    ∃ later, (client.evidenceOf branch revision result.2).2.history =
      later ++ .fetched branch revision :: result.2.history

/-- A call about a push that is not remembered has the rounds of its poll, and
the last of them decides the poll. -/
theorem evidenceOf_rounds
    (missing : before.cache.find? ⟨branch, revision, 1⟩ = none) :
    ∃ rounds,
      (∀ earlier < rounds,
        client.GoesOn branch revision before.now
          (client.round branch revision before earlier)) ∧
      ¬client.GoesOn branch revision before.now
        (client.round branch revision before rounds) ∧
      (client.evidenceOf branch revision before).2.history =
        .fetched branch revision :: client.roundEvents branch revision rounds ++
          before.history ∧
      (client.poll branch revision before).1 =
        client.ending branch revision before.now
          (client.round branch revision before rounds) := by
  obtain ⟨rounds, goesOn, stops, polled⟩ :=
    client.pollFrom_rounds branch revision before.now before
  have grown : (client.asked branch revision
      (client.round branch revision before rounds)).history =
      .fetched branch revision ::
        (client.round branch revision before rounds).history := rfl
  refine ⟨rounds, goesOn, stops, ?_, congrArg Prod.fst polled⟩
  rw [(evidenceOf_of_missing missing).1, poll, polled, grown, round_history,
    List.cons_append]

theorem remembers_of_polled {value : Remembered}
    (missing : before.cache.find? ⟨branch, revision, 1⟩ = none)
    (kept :
      Remembered.ofOutcome (client.poll branch revision before).1 = .ok value) :
    client.Remembers branch revision before
      (client.evidenceOf branch revision before) value := by
  rw [evidenceOf_polled missing kept]
  refine ⟨rfl, ?_, evidenceOf_remembered ?_⟩
  · change (client.poll branch revision before).2.cache.insert _ _ = _
    rw [poll_cache]
  · rw [State.find?_remember, if_pos rfl]

theorem fails_of_polled {error : EvidenceError}
    (missing : before.cache.find? ⟨branch, revision, 1⟩ = none)
    (failed : Remembered.ofOutcome (client.poll branch revision before).1 =
      .error error) :
    client.Fails branch revision before
      (client.evidenceOf branch revision before) error := by
  rw [evidenceOf_failed missing failed]
  have stillMissing :
      (client.poll branch revision before).2.cache.find? ⟨branch, revision, 1⟩ =
      none := by rw [poll_cache, missing]
  refine ⟨rfl, poll_cache client branch revision before, ?_⟩
  obtain ⟨sameHistory, _⟩ := client.evidenceOf_of_missing stillMissing
  obtain ⟨added, grown, polled⟩ :=
    client.poll_polled branch revision (client.poll branch revision before).2
  obtain ⟨later, rfl⟩ : ∃ later, added = later ++ [.fetched branch revision] :=
    List.getLast?_eq_some_iff.mp polled.getLast?_eq
  exact ⟨later, by rw [sameHistory, grown, List.append_assoc]; rfl⟩

end Client

namespace Web

variable {settings : PredictorSettings} {branch revision address : String}
  {response : Response}

/-- The environment of a server that may change its answers as a run goes on,
and the time it takes over them. -/
def changingEnvironment (servers : List Event → Server)
    (lasts : List Event → Nat) (settings : PredictorSettings) :
    Environment where
  fetch history branch revision :=
    (fetchSchedules (servers history) settings branch revision, lasts history)
  pushes history repository first last :=
    fetchPushes (servers history) repository first last

/-- A server that keeps to its answers is one of these. -/
theorem environment_eq (server : Server) (settings : PredictorSettings) :
    environment server settings =
      changingEnvironment (fun _ => server) (fun _ => 1) settings := rfl

/-- The text of a response. -/
def Response.text (response : Response) : String :=
  Utf8.decodeLossy response.body

/-- The evidence that a text denotes in JSON. -/
def evidence? (text : String) : Option Evidence :=
  (Json.read? text).bind Evidence.decode

theorem readSchedules_accepted (accepted : response.status = 202) :
    readSchedules address response = .ok .pending := by
  rw [readSchedules, if_pos accepted]

theorem readSchedules_refused
    (refused : ¬(200 ≤ response.status ∧ response.status < 300)) :
    readSchedules address response =
      .error (.http address (some response.status)
        s!"unexpected status {statusText response.status}") := by
  have other : response.status ≠ 202 := by omega
  have fails : isSuccess response.status = false := by
    simpa [isSuccess] using refused
  simp [readSchedules, other, fails]

section Read

variable (complete : response.complete = true) (other : response.status ≠ 202)
  (success : 200 ≤ response.status ∧ response.status < 300)

include complete other success

theorem readSchedules_blank (blank : Text.trim response.text = "") :
    readSchedules address response = .ok (.ready {}) := by
  have succeeds : isSuccess response.status = true := by
    simpa [isSuccess] using success
  have allBlank : Text.isAllBlank (Utf8.decodeLossy response.body) = true :=
    (Text.isAllBlank_iff _).mpr blank
  simp [readSchedules, other, succeeds, complete, allBlank]

theorem readSchedules_written (written : Text.trim response.text ≠ "") :
    readSchedules address response =
      match evidence? response.text with
      | some evidence => .ok (.ready evidence)
      | none => .error (.decode address "the reply is no evidence") := by
  have succeeds : isSuccess response.status = true := by
    simpa [isSuccess] using success
  have notBlank : Text.isAllBlank (Utf8.decodeLossy response.body) = false :=
    Bool.eq_false_iff.mpr fun allBlank =>
      written ((Text.isAllBlank_iff _).mp allBlank)
  simp only [readSchedules, if_neg other, succeeds, complete, notBlank]
  rfl

end Read

/-- Only the status 202 makes a push pending. -/
theorem readSchedules_eq_pending_iff (complete : response.complete = true) :
    readSchedules address response = .ok .pending ↔ response.status = 202 := by
  refine ⟨?_, readSchedules_accepted⟩
  intro pending
  by_contra other
  by_cases success : 200 ≤ response.status ∧ response.status < 300
  · by_cases blank : Text.trim response.text = ""
    · rw [readSchedules_blank complete other success blank] at pending
      cases pending
    · rw [readSchedules_written complete other success blank] at pending
      split at pending <;> cases pending
  · rw [readSchedules_refused success] at pending
    cases pending

section Rounds

variable {client : Client} {request : Request}
  (requested : scheduleRequest settings.apiKey
    (schedulesUrl settings.baseUrl branch revision) =
    .ok request)

include requested

theorem requestOf?_fetched :
    requestOf? settings (.fetched branch revision) = some request := by
  rw [requestOf?, requested]
  rfl

theorem requests_roundEvents (count : Nat) :
    (client.roundEvents branch revision count).reverse.filterMap
      (requestOf? settings) =
      List.replicate count request := by
  have waited : requestOf? settings (.slept client.polling.interval) = none :=
    rfl
  induction count with
  | zero => rfl
  | succ count induction =>
      rw [Client.roundEvents] at induction ⊢
      rw [List.replicate_succ, List.flatten_cons, List.reverse_append,
        List.filterMap_append, induction, List.replicate_succ']
      simp [requestOf?_fetched requested, waited]

/-- A call that polls sends one request a round. -/
theorem requests_of_rounds {before after : State} {count : Nat}
    (grown : after.history =
      .fetched branch revision :: client.roundEvents branch revision count ++
        before.history) :
    requests settings after = requests settings before ++
      List.replicate (count + 1) request := by
  rw [requests, grown, List.reverse_append, List.reverse_cons,
    List.filterMap_append, List.filterMap_append,
    requests_roundEvents requested, List.replicate_succ']
  simp [requests, requestOf?_fetched requested]

end Rounds

/-- A server answers the requests about a revision with responses, one after the
other and each in its time; no connection fails, and no response is cut
short. -/
structure Serves (servers : List Event → Server) (lasts : List Event → Nat)
    (settings : PredictorSettings) (branch revision : String)
    (request : Request) (responses : Nat → Response) (durations : Nat → Nat) :
    Prop where
  requested : scheduleRequest settings.apiKey
    (schedulesUrl settings.baseUrl branch revision) =
    .ok request
  answered : ∀ history, servers history request =
    .ok (responses (history.count (.fetched branch revision)))
  takes : ∀ history, lasts history =
    durations (history.count (.fetched branch revision))
  complete : ∀ index, (responses index).complete = true

section Protocol

variable {servers : List Event → Server} {lasts : List Event → Nat}
  {request : Request} {responses : Nat → Response} {durations : Nat → Nat}
  {client : Client} (serves :
    Serves servers lasts settings branch revision request responses durations)
  (within : client.environment = changingEnvironment servers lasts settings)
  (state : State)

include serves within

/-- In each round the next response is read. -/
theorem Serves.reply_round (count : Nat) :
    client.reply branch revision (client.round branch revision state count) =
      readSchedules (schedulesUrl settings.baseUrl branch revision)
        (responses (state.fetches branch revision + count)) := by
  have next := client.round_fetches branch revision state count
  rw [State.fetches] at next
  simp only [Client.reply, within, changingEnvironment, fetchSchedules,
    serves.requested, serves.answered, next]

theorem Serves.elapsed_round (count : Nat) :
    client.elapsed branch revision state.now
      (client.round branch revision state count) =
      count * client.polling.interval +
        ((List.range (count + 1)).map fun earlier =>
          durations (state.fetches branch revision + earlier)).sum := by
  apply Client.elapsed_round
  intro history
  rw [within]
  exact serves.takes history

/-- A poll goes on after the status 202 as long as there is time. -/
theorem Serves.goesOn_iff (count : Nat) :
    client.GoesOn branch revision state.now
      (client.round branch revision state count) ↔
      (responses (state.fetches branch revision + count)).status = 202 ∧
        client.elapsed branch revision state.now
          (client.round branch revision state count) +
          client.polling.interval ≤ client.polling.limit branch := by
  rw [Client.GoesOn, serves.reply_round within state,
    readSchedules_eq_pending_iff (serves.complete _)]

/-- What is remembered if the last round has this response. -/
theorem Serves.outcome_eq (count : Nat) :
    Remembered.ofOutcome
        (client.ending branch revision state.now
          (client.round branch revision state count)) =
      match readSchedules (schedulesUrl settings.baseUrl branch revision)
        (responses (state.fetches branch revision + count)) with
      | .ok (.ready evidence) => .ok (.ready evidence)
      | .ok .pending => .ok (.timedOut
          (client.elapsed branch revision state.now
            (client.round branch revision state count)))
      | .error error => Remembered.ofOutcome (.error error) := by
  rw [Client.ending, serves.reply_round within state]
  cases readSchedules (schedulesUrl settings.baseUrl branch revision)
      (responses (state.fetches branch revision + count)) with
  | error error => rfl
  | ok reply =>
      cases reply with
      | pending => rfl
      | ready evidence => rfl

end Protocol

/-- A call about a push that is not remembered sends one request a round, and
nothing but waits comes in between.  It sends the request again only after the
status 202, and only if the limit leaves room for the interval after the time
that has gone by.  The first response with another status decides: a successful
one with a blank text is empty evidence, one whose text is evidence is that
evidence, and one with another text cannot be decoded; a status that is no
success is a refusal.  When the responses keep saying 202, the call times out.
Evidence and timeouts are remembered; after the other failures the next call
sends the request again. -/
theorem evidenceOf_decided_by_response {servers : List Event → Server}
    {lasts : List Event → Nat} {request : Request} {responses : Nat → Response}
    {durations : Nat → Nat} (serves :
      Serves servers lasts settings branch revision request responses durations)
    (polling : Polling) (state : State)
    (missing : state.cache.find? ⟨branch, revision, 1⟩ = none) :
    let client : Client :=
      { environment := changingEnvironment servers lasts settings, polling }
    let address := schedulesUrl settings.baseUrl branch revision
    let response (round : Nat) :=
      responses (state.fetches branch revision + round)
    let elapsed (round : Nat) := round * polling.interval +
      ((List.range (round + 1)).map fun earlier =>
        durations (state.fetches branch revision + earlier)).sum
    let result := client.evidenceOf branch revision state
    ∃ rounds,
      requests settings result.2 =
        requests settings state ++ List.replicate (rounds + 1) request ∧
      result.2.history =
        .fetched branch revision :: client.roundEvents branch revision rounds ++
          state.history ∧
      (∀ earlier < rounds, (response earlier).status = 202 ∧
        elapsed earlier + polling.interval ≤ polling.limit branch) ∧
      let status := (response rounds).status
      let text := (response rounds).text
      (status = 202 → polling.limit branch < elapsed rounds + polling.interval ∧
        client.Remembers branch revision state result
          (.timedOut (elapsed rounds))) ∧
      (status ≠ 202 → 200 ≤ status ∧ status < 300 →
        (Text.trim text = "" →
          client.Remembers branch revision state result (.ready {})) ∧
        (Text.trim text ≠ "" →
          (∀ evidence, evidence? text = some evidence →
            client.Remembers branch revision state result (.ready evidence)) ∧
          (evidence? text = none →
            ∃ detail, client.Fails branch revision state result
              (.decode address detail)))) ∧
      (¬(200 ≤ status ∧ status < 300) →
        ∃ detail, client.Fails branch revision state result
          (.http address (some status) detail)) := by
  intro client address response elapsed result
  have within :
      client.environment = changingEnvironment servers lasts settings := rfl
  obtain ⟨rounds, goesOn, stops, grown, decided⟩ :=
    client.evidenceOf_rounds missing
  have timed : ∀ round,
      client.elapsed branch revision state.now
        (client.round branch revision state round) =
        elapsed round := serves.elapsed_round within state
  have outcome := serves.outcome_eq within state rounds
  rw [← decided, timed] at outcome
  refine ⟨rounds, requests_of_rounds serves.requested grown, grown, ?_,
    ?_, ?_, ?_⟩
  · intro earlier less
    have keepsOn :=
      (serves.goesOn_iff within state earlier).mp (goesOn earlier less)
    rw [timed] at keepsOn
    exact keepsOn
  · intro accepted
    rw [readSchedules_accepted accepted] at outcome
    refine ⟨?_, Client.remembers_of_polled missing outcome⟩
    by_contra early
    refine stops ((serves.goesOn_iff within state rounds).mpr ⟨accepted, ?_⟩)
    rw [timed]
    exact Nat.le_of_not_lt early
  · intro other success
    refine ⟨?_, fun written => ⟨?_, ?_⟩⟩
    · intro blank
      rw [readSchedules_blank (serves.complete _) other success blank]
          at outcome
      exact Client.remembers_of_polled missing outcome
    · intro evidence denotes
      rw [readSchedules_written (serves.complete _) other success written,
        denotes] at outcome
      exact Client.remembers_of_polled missing outcome
    · intro unreadable
      rw [readSchedules_written (serves.complete _) other success written,
        unreadable] at outcome
      exact ⟨_, Client.fails_of_polled missing outcome⟩
  · intro refused
    rw [readSchedules_refused refused] at outcome
    exact ⟨_, Client.fails_of_polled missing outcome⟩

/-- A server that accepts a push, with evidence in the reply that does not
count, and then answers with a line break. -/
def acceptingResponses : Nat → Response
  | 0 => { status := 202, body := "\x7b\x7d".toUTF8 }
  | _ => { status := 200, body := "\n".toUTF8 }

/-- The push that was accepted is asked about twice, and then it has empty
evidence. -/
theorem evidenceOf_decided_by_response_after_accepted :
    let settings : PredictorSettings :=
      { baseUrl := "http://predictor.test", apiKey := none }
    let client : Client :=
      { environment := changingEnvironment
          (fun history _ => .ok
            (acceptingResponses (history.count (.fetched "autoland" "abc"))))
          (fun _ => 1) settings
        polling := { interval := 10, timeout := 480, positive := by decide } }
    let result := client.evidenceOf "autoland" "abc" {}
    (∃ request, requests settings result.2 = [request, request]) ∧
      client.Remembers "autoland" "abc" {} result (.ready {}) := by
  intro settings client result
  obtain ⟨request, requested⟩ : ∃ request, scheduleRequest settings.apiKey
      (schedulesUrl settings.baseUrl "autoland" "abc") = .ok request := by
    cases built : scheduleRequest settings.apiKey
        (schedulesUrl settings.baseUrl "autoland" "abc") with
    | ok request => exact ⟨request, rfl⟩
    | error detail =>
        have possible : (scheduleRequest settings.apiKey
            (schedulesUrl settings.baseUrl "autoland" "abc")).toOption.isSome =
              true := by
          decide +kernel
        rw [built] at possible
        cases possible
  have serves : Serves
      (fun history _ =>
        .ok (acceptingResponses (history.count (.fetched "autoland" "abc"))))
      (fun _ => 1) settings "autoland" "abc" request acceptingResponses
        (fun _ => 1) := by
    refine ⟨requested, fun history => rfl, fun history => rfl, ?_⟩
    rintro (_ | _) <;> rfl
  obtain ⟨rounds, sent, -, goesOn, late, succeeds, -⟩ :=
    evidenceOf_decided_by_response serves client.polling {} rfl
  have one : rounds = 1 := by
    rcases rounds with _ | _ | rounds
    · have tooLate : 480 < 11 := (late rfl).1
      omega
    · rfl
    · have accepted : 200 = 202 := (goesOn 1 (by omega)).1
      omega
  subst one
  have blank : Text.trim (acceptingResponses 1).text = "" := by decide +kernel
  exact ⟨⟨request, sent⟩, (succeeds (by decide) (by decide)).1 blank⟩

end Web

end TaskSieve
