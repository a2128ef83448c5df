import TaskSieve.Proofs.Strategy.Deeds

/-!
# What is not asked twice

Strategies that share a cache share what the predictor answered.  As long as
the cache is not cleared, what is remembered stays as it is, and a revision is
asked about only while nothing is remembered about it.  A poll that ended in
evidence or a timeout leaves something to remember, so its last request is the
last one about its revision.
-/

namespace TaskSieve

open Step

/-- From one state to a later one what is remembered stays.  What happened in
between does not begin with a wait; revisions were asked about only if nothing
was remembered about them at first; and when a request was the last of a poll
that ended in evidence or a timeout, this is remembered and the revision was not
asked about again. -/
structure Environment.Leads (environment : Environment) (before after : State) :
    Prop where
  stays : ∀ key value, before.cache.find? key = some value →
    after.cache.find? key = some value
  requests : ∃ added, after.history = added ++ before.history ∧
    (∀ duration, added.getLast? ≠ some (.slept duration)) ∧
    ∀ later branch revision between,
      added = later ++ .fetched branch revision :: between →
      before.cache.find? ⟨branch, revision, 1⟩ = none ∧
      (environment.Concludes branch revision (between ++ before.history) later →
        (∃ value, after.cache.find? ⟨branch, revision, 1⟩ = some value) ∧
          .fetched branch revision ∉ later)

namespace Environment.Leads

variable {environment : Environment} {before between after : State}

/-- Quiet events and more that is remembered lead from one state to another. -/
theorem of_quiet (added : List Event)
    (stays : ∀ key value, before.cache.find? key = some value →
      after.cache.find? key = some value)
    (grown : after.history = added ++ before.history)
    (quiet : ∀ event ∈ added, event.isQuiet = true) :
    environment.Leads before after := by
  refine ⟨stays, added, grown, ?_, ?_⟩
  · intro duration first
    have loud := quiet _ (List.mem_of_getLast? first)
    cases loud
  · intro later branch revision between split
    have loud := quiet (.fetched branch revision) (by simp [split])
    cases loud

theorem refl (state : State) : environment.Leads state state :=
  of_quiet [] (fun _ _ found => found) rfl nofun

/-- A request in the first part is followed by all of the second part, and about
a revision that is remembered by then the second part does not ask. -/
theorem trans (first : environment.Leads before between)
    (second : environment.Leads between after) :
    environment.Leads before after := by
  obtain ⟨earlier, grownFirst, noWaitFirst, requestsFirst⟩ := first.requests
  obtain ⟨added, grownSecond, noWaitSecond, requestsSecond⟩ := second.requests
  refine ⟨fun key value found =>
    second.stays key value (first.stays key value found), added ++ earlier,
    by rw [grownSecond, grownFirst, List.append_assoc], ?_, ?_⟩
  · intro duration
    rw [List.getLast?_append]
    cases last : earlier.getLast? with
    | none => exact noWaitSecond duration
    | some event =>
        rw [← last]
        simpa [last] using noWaitFirst duration
  · intro later branch revision older split
    rcases split_append split with ⟨follows, rfl, splitFirst⟩
      | ⟨front, splitSecond, rfl⟩
    · obtain ⟨missing, once⟩ :=
        requestsFirst follows branch revision older splitFirst
      refine ⟨missing, ?_⟩
      intro concludes
      obtain ⟨⟨value, found⟩, notAgain⟩ := once concludes.of_append
      refine ⟨⟨value, second.stays _ value found⟩, ?_⟩
      intro again
      rcases List.mem_append.mp again with late | early
      · obtain ⟨last, rest, splitAgain⟩ := List.append_of_mem late
        rw [(requestsSecond last branch revision rest splitAgain).1] at found
        cases found
      · exact notAgain early
    · obtain ⟨missing, once⟩ :=
        requestsSecond later branch revision front splitSecond
      constructor
      · cases found : before.cache.find? ⟨branch, revision, 1⟩ with
        | none => rfl
        | some value =>
            rw [first.stays _ value found] at missing
            cases missing
      · rw [grownFirst, ← List.append_assoc] at once
        exact once

end Environment.Leads

namespace Client

/-- A revision is polled for only while nothing is remembered about it, and only
the last request of the poll can conclude. -/
theorem evidenceOf_leads (client : Client) (branch revision : String)
    (state : State) :
    client.environment.Leads state
      (client.evidenceOf branch revision state).2 := by
  cases found : state.cache.find? ⟨branch, revision, 1⟩ with
  | some value =>
      rw [evidenceOf_remembered found]
      exact .refl state
  | none =>
      obtain ⟨sameHistory, remembers⟩ := client.evidenceOf_of_missing found
      obtain ⟨added, grown, polled⟩ := client.poll_polled branch revision state
      refine ⟨fun key value present => find?_evidenceOf present, added,
        sameHistory.trans grown, ?_, ?_⟩
      · intro duration first
        rw [polled.getLast?_eq] at first
        cases first
      · intro later otherBranch other between split
        have asked : .fetched otherBranch other ∈ added := by simp [split]
        rcases polled.eq_fetched_or_slept asked with same | ⟨duration, clash⟩
        · cases same
          refine ⟨found, ?_⟩
          intro concludes
          obtain ⟨rfl, conclusive⟩ := (polled.concludes_iff split).mp concludes
          exact ⟨remembers conclusive, List.not_mem_nil⟩
        · cases clash

end Client

theorem Environment.upholds_leads (environment : Environment) (start : State) :
    environment.Upholds (environment.Leads start) where
  single polling branch revision state leads :=
    leads.trans
      (Client.evidenceOf_leads { environment, polling } branch revision state)
  gathered state key value _ missing _ leads := by
    apply leads.trans
    refine .of_quiet [] ?_ rfl nofun
    intro other held found
    rw [State.find?_remember, if_neg]
    · exact found
    · rintro rfl
      rw [missing] at found
      cases found
  quiet _ _ added sameCache grown quiet leads :=
    leads.trans
      (.of_quiet added (fun _ _ found => sameCache ▸ found) grown quiet)

namespace Deed

theorem run_leads (environment : Environment) {deeds : List Deed}
    (tame : ∀ deed ∈ deeds, deed.IsTame)
    (keeps : ∀ deed ∈ deeds, deed.clears = false) (state : State) :
    environment.Leads state (run environment deeds state) := by
  apply run_invariant (environment.upholds_leads state) deeds tame _ state
    (.refl state)
  intro deed member clears
  rw [keeps deed member] at clears
  cases clears

/-- In any run that does not clear the cache, from any state, such as the one
that is left by the last clearing, and whatever the predictor and the push log
answer:

* once a poll has ended in evidence or a timeout, its revision is not asked
  about again; a poll has ended when no wait follows, and no deed begins with a
  wait;
* what is remembered stays as it is;
* once the evidence for a push was gathered or timed out, asking for it again
  does nothing. -/
theorem run_never_asks_again (environment : Environment) (start : State)
    {deeds : List Deed} (tame : ∀ deed ∈ deeds, deed.IsTame)
    (keeps : ∀ deed ∈ deeds, deed.clears = false) :
    (∀ polling branch revision before later,
      let polled := Client.poll { environment, polling } branch revision before
      Conclusive (polled.1.mapError .evidence) →
      start.history <:+ before.history →
      (run environment deeds start).history = later ++ polled.2.history →
      (∀ duration, later.getLast? ≠ some (.slept duration)) →
      .fetched branch revision ∉ later) ∧
    (∃ added, (run environment deeds start).history = added ++ start.history ∧
      ∀ duration, added.getLast? ≠ some (.slept duration)) ∧
    (∀ key value, start.cache.find? key = some value →
      (run environment deeds start).cache.find? key = some value) ∧
    ∀ polling (push : Push) pushes,
      let gathered :=
        Client.evidenceFor { environment, polling } push pushes start
      let after := run environment deeds gathered.2
      Conclusive gathered.1 →
      ∀ otherPolling (other : Push), other.branch = push.branch →
        other.revision = push.revision →
        (Client.evidenceFor { environment, polling := otherPolling } other
          pushes after).2 =
          after := by
  obtain ⟨stays, added, grown, noWait, requests⟩ :=
    run_leads environment tame keeps start
  refine ⟨?_, ⟨added, grown, noWait⟩, stays, ?_⟩
  · intro polling branch revision before later polled conclusive started
      passes noWait
    obtain ⟨older, sameOlder⟩ := started
    obtain ⟨events, polledHistory, isPolled⟩ :=
      Client.poll_polled { environment, polling } branch revision before
    obtain ⟨between, rfl⟩ := isPolled.exists_last
    have concludesLast :
        environment.Concludes branch revision (between ++ before.history) [] :=
      (isPolled.concludes_iff rfl).mpr ⟨rfl, conclusive⟩
    have concludes : environment.Concludes branch revision
        (between ++ before.history) later :=
      (Environment.concludes_iff_of_no_wait noWait).mpr concludesLast
    have split :
        added = later ++ .fetched branch revision :: (between ++ older) := by
      have sameHistory : added ++ start.history =
          later ++ .fetched branch revision :: (between ++ older) ++
          start.history := by
        rw [← grown, passes, polledHistory, ← sameOlder]
        simp
      exact List.append_cancel_right sameHistory
    have once := (requests later branch revision (between ++ older) split).2
    rw [List.append_assoc, sameOlder] at once
    exact (once concludes).2
  · intro polling push pushes gathered after conclusive otherPolling other
      sameBranch sameRevision
    obtain ⟨value, found, _⟩ := Client.exists_find?_evidenceFor conclusive
    have stillFound :=
      (run_leads environment tame keeps gathered.2).stays _ _ found
    rw [← sameBranch, ← sameRevision] at stillFound
    exact congrArg Prod.snd (Client.evidenceFor_of_found stillFound)

/-- A predictor that is never ready. -/
def stalledClient : Client where
  environment := {
    fetch := fun _ _ _ => (.ok .pending, 1)
    pushes := fun _ _ _ _ => .ok ∅ }
  polling := { interval := 2, timeout := 5, positive := Nat.two_pos }

/-- A push that timed out once is not asked about again by the votes that
follow, which their fallback decides. -/
theorem run_never_asks_again_of_timeout :
    let push : Push := {
      branch := "autoland", repository := "repo", revision := "abc",
      project := "autoland", id := 3 }
    let rule : PredictorRule :=
      { selector := { threshold := .zero, isFraction := rfl } }
    let vote (label : String) : Deed :=
      .vote stalledClient.polling {} push (Task.test label)
        (.predictorOr rule (.fixed true))
    let deeds := [vote "task-0",
      .use stalledClient.polling (.ask (.single "try" "def")), vote "task-1"]
    let gathered := stalledClient.evidenceFor push 1 {}
    let after := run stalledClient.environment deeds gathered.2
    (∀ deed ∈ deeds, deed.IsTame) ∧ (∀ deed ∈ deeds, deed.clears = false) ∧
      Conclusive gathered.1 ∧
      (stalledClient.evidenceFor push 1 after).2 = after := by
  intro push rule vote deeds gathered after
  have tame : ∀ deed ∈ deeds, deed.IsTame := by
    have fallback : (Strategy.fixed true).GivenVotes LeavesEvidence :=
      leavesEvidence_of_noting fun _ => .ok true
    simp only [deeds, List.mem_cons, List.not_mem_nil, or_false]
    rintro deed (rfl | rfl | rfl)
    · exact fallback
    · trivial
    · exact fallback
  have keeps : ∀ deed ∈ deeds, deed.clears = false := by
    simp [deeds, vote, clears]
  have pending : stalledClient.environment.AnswersAlways fun _ _ =>
      .ok .pending :=
    fun _ _ _ => rfl
  have conclusive : Conclusive gathered.1 := by
    obtain ⟨elapsed, late⟩ :
        ∃ elapsed, (stalledClient.poll push.branch push.revision {}).1 =
        .error (.timeout push.branch push.revision elapsed) :=
      Client.pollFrom_always_pending pending rfl 0 {}
    have kept : Remembered.ofOutcome
        (stalledClient.poll push.branch push.revision {}).1 =
        .ok (.timedOut elapsed) := by
      rw [late]
      rfl
    have answered :
        gathered.1 = .error (.evidence (.timeout "autoland" "abc" elapsed)) :=
      congrArg Prod.fst (Client.evidenceOf_polled rfl kept)
    rw [answered]
    exact rfl
  obtain ⟨_, _, _, again⟩ :=
    run_never_asks_again stalledClient.environment {} tame keeps
  exact ⟨tame, keeps, conclusive,
    again stalledClient.polling push 1 conclusive _ push rfl rfl⟩

end Deed

end TaskSieve
