import TaskSieve.Proofs.Strategy.Deeds

/-!
# What stands behind a remembered window

What a cache remembers for a window of pushes it could be told from what it
remembers for single revisions, and evidence of a single revision was received
from the predictor since the cache was cleared.  Every deed keeps it that way,
also when it stops in the middle of a window.
-/

namespace TaskSieve

open Step

/-- Windows are justified by single revisions, whose evidence was received after
the events of an earlier history. -/
structure State.Coherent (environment : Environment) (since : List Event)
    (state : State) :
    Prop where
  windows : ∀ key value, 1 < key.pushes → state.cache.find? key = some value →
    state.Justifies key value
  singles : ∀ branch revision evidence,
    state.cache.find? ⟨branch, revision, 1⟩ = some (.ready evidence) →
    environment.Received branch revision evidence since state.history
  follows : since <:+ state.history

namespace State.Coherent

variable {environment : Environment} {since : List Event} {state : State}

theorem of_empty (empty : state.cache = ∅) (follows : since <:+ state.history) :
    state.Coherent environment since where
  windows key value _ found := by
    rw [empty] at found
    cases found
  singles branch revision evidence found := by
    rw [empty] at found
    cases found
  follows := follows

theorem of_same_cache (coherent : state.Coherent environment since)
    {after : State} (sameCache : after.cache = state.cache)
    (grown : state.history <:+ after.history) :
    after.Coherent environment since where
  windows key value many found :=
    (coherent.windows key value many (sameCache ▸ found)).mono
      fun _ _ _ present => sameCache ▸ present
  singles branch revision evidence found :=
    (coherent.singles branch revision evidence (sameCache ▸ found)).mono
      List.suffix_rfl grown
  follows := coherent.follows.trans grown

theorem remember (coherent : state.Coherent environment since) {key : CacheKey}
    {value : Remembered} (many : 1 < key.pushes)
    (justified : state.Justifies key value) :
    (state.remember key value).Coherent environment since := by
  have sameSingle : ∀ branch revision,
      (state.remember key value).cache.find? ⟨branch, revision, 1⟩ =
        state.cache.find? ⟨branch, revision, 1⟩ := by
    intro branch revision
    rw [State.find?_remember, if_neg]
    rintro rfl
    exact Nat.lt_irrefl _ many
  constructor
  · intro other held manyOthers found
    rw [State.find?_remember] at found
    by_cases same : other = key
    · rw [if_pos same] at found
      cases found
      rw [same]
      exact justified.mono
        fun branch revision _ present =>
          (sameSingle branch revision).trans present
    · rw [if_neg same] at found
      exact (coherent.windows other held manyOthers found).mono
        fun branch revision _ present =>
          (sameSingle branch revision).trans present
  · intro branch revision evidence found
    rw [sameSingle] at found
    exact coherent.singles branch revision evidence found
  · exact coherent.follows

/-- Looking up a revision remembers at most what the predictor has just
answered. -/
theorem evidenceOf (client : Client) (branch revision : String)
    (coherent : state.Coherent client.environment since) :
    (client.evidenceOf branch revision state).2.Coherent client.environment
      since := by
  obtain ⟨added, grown, _⟩ := client.evidenceOf_history branch revision state
  have longer :
      state.history <:+ (client.evidenceOf branch revision state).2.history :=
    ⟨added, grown.symm⟩
  constructor
  · intro key value many found
    rw [Client.find?_window_evidenceOf many] at found
    exact (coherent.windows key value many found).mono
      fun _ _ _ present => Client.find?_evidenceOf present
  · intro otherBranch other evidence found
    rcases Client.found_or_received_evidenceOf found with
      before | ⟨same, received⟩
    · exact (coherent.singles otherBranch other evidence before).mono
        List.suffix_rfl longer
    · cases same
      exact received.mono coherent.follows List.suffix_rfl
  · exact coherent.follows.trans longer

end State.Coherent

theorem Environment.upholds_coherent (environment : Environment)
    (since : List Event) :
    environment.Upholds (State.Coherent environment since) where
  single polling branch revision _ coherent :=
    coherent.evidenceOf { environment, polling } branch revision
  gathered _ _ _ many _ justified coherent := coherent.remember many justified
  quiet _ _ added sameCache grown _ coherent :=
    coherent.of_same_cache sameCache ⟨added, grown.symm⟩

namespace Deed

theorem run_coherent (environment : Environment) {deeds : List Deed}
    (tame : ∀ deed ∈ deeds, deed.IsTame) (start : State)
    (empty : start.cache = ∅) :
    (run environment deeds start).Coherent environment start.history := by
  apply run_invariant (environment.upholds_coherent start.history) deeds tame
  · intro _ _ _ state coherent
    exact .of_empty rfl coherent.follows
  · exact .of_empty empty List.suffix_rfl

/-- In every state that a run reaches from an empty cache, whatever the
predictor and the push log answer on the way:

* evidence of a window of several pushes is the merge of the evidence that is
  remembered for at most as many revisions, the last of which is that of the
  window, and a timeout of a window is remembered for one of its revisions as
  well;
* evidence of a single revision was received from the predictor, after every
  clearing. -/
theorem run_justified (environment : Environment) {deeds : List Deed}
    (tame : ∀ deed ∈ deeds, deed.IsTame) {start : State}
    (empty : start.cache = ∅) :
    let finish := run environment deeds start
    (∀ branch head pushes summary, 2 ≤ pushes →
      finish.cache.find? ⟨branch, head, pushes⟩ = some (.ready summary) →
      ∃ (revisions : List String) (results : List Evidence),
        revisions.length ≤ pushes ∧ revisions.getLast? = some head ∧
        List.Forall₂
          (fun revision result =>
            finish.cache.find? ⟨branch, revision, 1⟩ = some (.ready result))
          revisions results ∧
        summary = Evidence.merged results) ∧
    (∀ branch head pushes elapsed, 2 ≤ pushes →
      finish.cache.find? ⟨branch, head, pushes⟩ = some (.timedOut elapsed) →
      ∃ revision, finish.cache.find? ⟨branch, revision, 1⟩ =
        some (.timedOut elapsed)) ∧
    ∀ branch revision evidence,
      finish.cache.find? ⟨branch, revision, 1⟩ = some (.ready evidence) →
      environment.Received branch revision evidence start.history
        finish.history ∧
      ∀ earlier deed later, deeds = earlier ++ deed :: later →
        deed.clears = true →
        environment.Received branch revision evidence
          (run environment earlier start).history
          finish.history := by
  intro finish
  have coherent : finish.Coherent environment start.history :=
    run_coherent environment tame start empty
  refine ⟨?_, ?_, ?_⟩
  · intro branch head pushes summary many found
    exact coherent.windows ⟨branch, head, pushes⟩ _ many found
  · intro branch head pushes elapsed many found
    exact coherent.windows ⟨branch, head, pushes⟩ _ many found
  · intro branch revision evidence found
    refine ⟨coherent.singles branch revision evidence found, ?_⟩
    intro earlier deed later split clears
    -- What follows a clearing is a run from an empty cache of its own.
    have afresh : finish = run environment later
        { run environment earlier start with cache := ∅ } := by
      simp only [finish, split, run, List.foldl_append, List.foldl_cons]
      rw [apply_of_clears clears]
    have tameLater : ∀ deed ∈ later, deed.IsTame :=
      fun deed member => tame deed (by simp [split, member])
    have coherentLater := run_coherent environment tameLater
      { run environment earlier start with cache := ∅ } rfl
    rw [← afresh] at coherentLater
    exact coherentLater.singles branch revision evidence found

/-- A predictor that knows one task and is ready at once. -/
def promptClient : Client where
  environment := {
    fetch := fun _ _ _ => (.ok (.ready { known := Names.ofList ["task-0"] }), 1)
    pushes := fun _ _ _ _ => .ok ∅ }
  polling := { interval := 2, timeout := 5, positive := Nat.two_pos }

/-- The window of the first push is remembered after a clearing, and
justified. -/
theorem run_justified_of_first_push :
    let push : Push := {
      branch := "autoland", repository := "repo", revision := "abc",
      project := "autoland", id := 1 }
    let deeds : List Deed :=
      [.use promptClient.polling (.ask (.single "autoland" "def")),
      .use promptClient.polling .clear,
        .use promptClient.polling (.ask (.window push 2))]
    let finish := run promptClient.environment deeds {}
    (∀ deed ∈ deeds, deed.IsTame) ∧ ({} : State).cache = ∅ ∧
      ∃ summary, finish.cache.find? ⟨"autoland", "abc", 2⟩ =
        some (.ready summary) ∧
        ∃ (revisions : List String) (results : List Evidence),
          revisions.length ≤ 2 ∧ revisions.getLast? = some "abc" ∧
          List.Forall₂
            (fun revision result =>
              finish.cache.find? ⟨"autoland", revision, 1⟩ =
                some (.ready result))
            revisions results ∧
          summary = Evidence.merged results := by
  intro push deeds finish
  have tame : ∀ deed ∈ deeds, deed.IsTame := by
    simp [deeds, IsTame]
  obtain ⟨cleared, empty, last⟩ : ∃ cleared : State, cleared.cache = ∅ ∧
      finish = (promptClient.evidenceFor push 2 cleared).2 := ⟨_, rfl, rfl⟩
  have answered : (promptClient.evidenceFor push 2 cleared).1 =
      .ok (Evidence.merged [{ known := Names.ofList ["task-0"] }]) := by
    have many : 1 < 2 := Nat.one_lt_two
    have missing : cleared.cache.find? ⟨push.branch, push.revision, 2⟩ =
        none := by
      rw [empty]
      rfl
    have missingSingle : (cleared.resolving push 2).cache.find?
        ⟨push.branch, push.revision, 1⟩ = none := by
      rw [State.find?_resolving, empty]
      rfl
    have constant : promptClient.environment.AnswersAlways fun _ _ =>
        .ok (.ready { known := Names.ofList ["task-0"] }) := fun _ _ _ => rfl
    have kept : Remembered.ofOutcome
        (promptClient.poll push.branch push.revision
          (cleared.resolving push 2)).1 =
          .ok (.ready { known := Names.ofList ["task-0"] }) := by
      rw [Client.poll_always_ready constant rfl]
      rfl
    rw [Client.evidenceFor_of_resolved many missing
      (PushLog.windowFor_of_alone (by decide))]
    simp only [Client.collect_cons_ok
      (Client.evidenceOf_polled missingSingle kept)]
    rfl
  obtain ⟨value, found, ready⟩ := Client.exists_find?_evidenceFor
    (show Conclusive (promptClient.evidenceFor push 2 cleared).1 by
      rw [answered]; trivial)
  rw [ready _ answered, ← last] at found
  have startEmpty : ({} : State).cache = ∅ := rfl
  obtain ⟨windows, _, _⟩ :=
    run_justified promptClient.environment tame startEmpty
  exact ⟨tame, startEmpty, _, found,
    windows "autoland" "abc" 2 _ (Nat.le_refl 2) found⟩

end Deed

end TaskSieve
