import TaskSieve.Proofs.Evidence.Collecting

/-!
# What a failed window leaves behind

Gathering a window stops at the first revision that fails.  The revisions
before it are remembered as ready, and those after it have not been asked
about.  Only a timeout is remembered of the failure itself, for its revision
and for the window, so after any other failure the same window is gathered
anew from the failing revision on.
-/

namespace TaskSieve

namespace State

/-- What an earlier state remembers is remembered later on, and nothing more
except under some of these keys. -/
structure Adds (keys : List CacheKey) (before after : State) : Prop where
  stays : ∀ key value, before.cache.find? key = some value →
    after.cache.find? key = some value
  elsewhere : ∀ key ∉ keys, after.cache.find? key = before.cache.find? key

/-- From one state to a later one the predictor was asked only about certain
revisions of a branch, and only if nothing was remembered about them. -/
def Asks (branch : String) (among : String → Prop) (before after : State) :
    Prop :=
  ∃ added, after.history = added ++ before.history ∧
    ∀ otherBranch revision, .fetched otherBranch revision ∈ added →
      otherBranch = branch ∧ among revision ∧
      before.cache.find? ⟨branch, revision, 1⟩ = none

variable {before between after : State} {branch : String}

namespace Adds

variable {keys more : List CacheKey}

theorem of_same_cache (same : after.cache = before.cache) :
    before.Adds keys after :=
  ⟨fun _ _ found => same ▸ found, fun _ _ => by rw [same]⟩

theorem followed (adds : before.Adds keys between)
    (same : after.cache = between.cache) : before.Adds keys after :=
  ⟨fun key value found => same ▸ adds.stays key value found,
    fun key outside => by rw [same, adds.elsewhere key outside]⟩

theorem trans (first : before.Adds keys between)
    (second : between.Adds more after) : before.Adds (keys ++ more) after := by
  constructor
  · intro key value found
    exact second.stays key value (first.stays key value found)
  · intro key outside
    rw [List.mem_append, not_or] at outside
    rw [second.elsewhere key outside.2, first.elsewhere key outside.1]

theorem mono (adds : before.Adds keys after) (fewer : keys ⊆ more) :
    before.Adds more after :=
  ⟨adds.stays,
    fun key outside => adds.elsewhere key fun member => outside (fewer member)⟩

theorem remember {key : CacheKey} (missing : before.cache.find? key = none)
    (value : Remembered) : before.Adds [key] (before.remember key value) := by
  constructor
  · intro other held found
    rw [find?_remember, if_neg]
    · exact found
    · rintro rfl
      rw [missing] at found
      cases found
  · intro other outside
    rw [find?_remember, if_neg fun same => outside (by simp [same])]

end Adds

namespace Asks

variable {among others : String → Prop}

theorem of_same_history (same : after.history = before.history) :
    before.Asks branch among after :=
  ⟨[], same, nofun⟩

theorem followed (asks : before.Asks branch among between)
    (same : after.history = between.history) :
    before.Asks branch among after := by
  obtain ⟨added, grown, requests⟩ := asks
  exact ⟨added, same.trans grown, requests⟩

theorem trans {keys : List CacheKey} (first : before.Asks branch among between)
    (adds : before.Adds keys between)
    (second : between.Asks branch others after) :
    before.Asks branch (fun revision => among revision ∨ others revision)
      after := by
  obtain ⟨earlier, grown, requests⟩ := first
  obtain ⟨added, grownMore, moreRequests⟩ := second
  refine ⟨added ++ earlier, by rw [grownMore, grown, List.append_assoc], ?_⟩
  intro otherBranch revision member
  rcases List.mem_append.mp member with later | early
  · obtain ⟨same, isOther, missing⟩ := moreRequests otherBranch revision later
    refine ⟨same, .inr isOther, ?_⟩
    cases found : before.cache.find? ⟨branch, revision, 1⟩ with
    | none => rfl
    | some value =>
        rw [adds.stays _ value found] at missing
        cases missing
  · obtain ⟨same, isAmong, missing⟩ := requests otherBranch revision early
    exact ⟨same, .inl isAmong, missing⟩

theorem mono (asks : before.Asks branch among after)
    (wider : ∀ revision, before.cache.find? ⟨branch, revision, 1⟩ = none →
      among revision →
      others revision) : before.Asks branch others after := by
  obtain ⟨added, grown, requests⟩ := asks
  refine ⟨added, grown, ?_⟩
  intro otherBranch revision member
  obtain ⟨same, isAmong, missing⟩ := requests otherBranch revision member
  exact ⟨same, wider revision missing isAmong, missing⟩

theorem fetches_eq (asks : before.Asks branch (fun _ => False) after)
    (otherBranch revision : String) :
    after.fetches otherBranch revision =
      before.fetches otherBranch revision := by
  obtain ⟨added, grown, requests⟩ := asks
  have none : added.count (.fetched otherBranch revision) = 0 := by
    apply List.count_eq_zero_of_not_mem
    intro member
    exact (requests otherBranch revision member).2.1
  rw [fetches, grown, List.count_append, none, Nat.zero_add, fetches]

end Asks

theorem adds_resolving (state : State) (push : Push) (pushes : Nat) :
    state.Adds [] (state.resolving push pushes) := by
  apply Adds.of_same_cache
  unfold resolving
  split <;> rfl

theorem asks_resolving (state : State) (push : Push) (pushes : Nat) :
    state.Asks push.branch (fun _ => False) (state.resolving push pushes) := by
  unfold resolving
  split
  · refine ⟨[_], rfl, ?_⟩
    intro otherBranch revision member
    cases List.mem_singleton.mp member
  · exact .of_same_history rfl

end State

namespace Client

variable {client : Client} {branch revision : String} {state after : State}

theorem evidenceOf_adds (client : Client) (branch revision : String)
    (state : State) :
    state.Adds [⟨branch, revision, 1⟩]
      (client.evidenceOf branch revision state).2 := by
  have polled : state.Adds [] (client.poll branch revision state).2 :=
    .of_same_cache (client.poll_cache branch revision state)
  rcases evidenceOf_cases client branch revision state with
    ⟨value, _, same⟩ | ⟨missing, ⟨value, _, same⟩ | ⟨error, _, same⟩⟩
  · rw [same]
    exact .of_same_cache rfl
  · rw [same]
    have stillMissing :
        (client.poll branch revision state).2.cache.find?
          ⟨branch, revision, 1⟩ = none := by
      rw [poll_cache, missing]
    exact polled.trans (.remember stillMissing value)
  · rw [same]
    exact polled.mono (List.nil_subset _)

theorem evidenceOf_asks (client : Client) (branch revision : String)
    (state : State) :
    state.Asks branch (· = revision)
      (client.evidenceOf branch revision state).2 := by
  rcases evidenceOf_cases client branch revision state with
    ⟨value, _, same⟩ | ⟨missing, _⟩
  · rw [same]
    exact .of_same_history rfl
  · obtain ⟨added, grown, requests⟩ :=
      client.evidenceOf_history branch revision state
    refine ⟨added, grown, ?_⟩
    intro otherBranch other member
    rcases requests _ member with same | ⟨duration, clash⟩
    · cases same
      exact ⟨rfl, rfl, missing⟩
    · cases clash

/-- After a failure that is no timeout nothing new is remembered. -/
theorem evidenceOf_of_hard {failure : Failure}
    (hard : failure.isTimeout = false) (failed :
      client.evidenceOf branch revision state = (.error failure, after)) :
    after.cache = state.cache ∧ state.cache.find? ⟨branch, revision, 1⟩ =
      none := by
  have told : ∀ value : Remembered, value.told branch revision ≠
      .error failure := by
    intro value same
    cases value with
    | ready evidence => cases same
    | timedOut elapsed =>
        cases same
        cases hard
  rcases evidenceOf_cases client branch revision state with
    ⟨value, _, same⟩ | ⟨missing, ⟨value, _, same⟩ | ⟨error, _, same⟩⟩
  · rw [same] at failed
    exact (told value (congrArg Prod.fst failed)).elim
  · rw [same] at failed
    exact (told value (congrArg Prod.fst failed)).elim
  · rw [same, Prod.mk.injEq] at failed
    rw [← failed.2]
    exact ⟨client.poll_cache branch revision state, missing⟩

theorem collect_adds (client : Client) (branch : String)
    (revisions : List String) (state : State) :
    state.Adds (revisions.map fun revision => ⟨branch, revision, 1⟩)
      (client.collect branch revisions state).2 := by
  induction revisions generalizing state with
  | nil => exact .of_same_cache rfl
  | cons revision rest induction =>
      have first := client.evidenceOf_adds branch revision state
      cases answered : client.evidenceOf branch revision state with
      | mk answer between =>
          rw [answered] at first
          cases answer with
          | ok evidence =>
              rw [collect_cons_ok answered]
              exact first.trans (induction between)
          | error failure =>
              rw [collect_cons_error answered]
              exact first.mono (by simp)

theorem collect_asks (client : Client) (branch : String)
    (revisions : List String) (state : State) :
    state.Asks branch (· ∈ revisions)
      (client.collect branch revisions state).2 := by
  induction revisions generalizing state with
  | nil => exact .of_same_history rfl
  | cons revision rest induction =>
      have adds := client.evidenceOf_adds branch revision state
      have first := client.evidenceOf_asks branch revision state
      cases answered : client.evidenceOf branch revision state with
      | mk answer between =>
          rw [answered] at adds first
          cases answer with
          | ok evidence =>
              rw [collect_cons_ok answered]
              apply (first.trans adds (induction between)).mono
              intro other _ either
              exact List.mem_cons.mpr either
          | error failure =>
              rw [collect_cons_error answered]
              apply first.mono
              rintro other _ rfl
              exact List.mem_cons_self

theorem ready_of_collect {revisions : List String} {results : List Evidence}
    (collected : client.collect branch revisions state = (.ok results, after)) :
    ∀ revision ∈ revisions, ∃ evidence,
      after.cache.find? ⟨branch, revision, 1⟩ = some (.ready evidence) := by
  have found := forall₂_find?_collect (congrArg Prod.fst collected)
  rw [collected] at found
  clear collected
  induction found with
  | nil => nofun
  | cons ready _ induction =>
      exact List.forall_mem_cons.mpr ⟨⟨_, ready⟩, induction⟩

/-- Collecting fails with the first revision that fails. -/
theorem exists_failing_of_collect {revisions : List String} {failure : Failure}
    (failed : (client.collect branch revisions state).1 = .error failure) :
    ∃ front failing back results between,
      revisions = front ++ failing :: back ∧
      client.collect branch front state = (.ok results, between) ∧
      client.evidenceOf branch failing between =
        (.error failure, (client.collect branch revisions state).2) := by
  induction revisions generalizing state with
  | nil => cases failed
  | cons revision rest induction =>
      cases answered : client.evidenceOf branch revision state with
      | mk answer after =>
          cases answer with
          | error reason =>
              rw [collect_cons_error answered] at failed ⊢
              cases failed
              exact ⟨[], revision, rest, [], state, rfl, rfl, answered⟩
          | ok evidence =>
              rw [collect_cons_ok answered] at failed ⊢
              have failedLater : (client.collect branch rest after).1 =
                  .error failure := by
                cases others : (client.collect branch rest after).1 with
                | ok results =>
                    rw [others] at failed
                    cases failed
                | error reason =>
                    rw [others] at failed
                    cases failed
                    rfl
              obtain ⟨front, failing, back, results, between, rfl, collected,
                  ends⟩ :=
                induction failedLater
              refine ⟨revision :: front, failing, back, evidence :: results,
                between, rfl, ?_, ends⟩
              rw [collect_cons_ok answered, collected]
              rfl

section Window

variable {push : Push} {pushes : Nat}

theorem adds_collect_resolving (client : Client) (push : Push) (pushes : Nat)
    (revisions : List String) (state : State) :
    state.Adds (revisions.map fun revision => ⟨push.branch, revision, 1⟩)
      (client.collect push.branch revisions (state.resolving push pushes)).2 :=
  (state.adds_resolving push pushes).trans
    (client.collect_adds push.branch revisions _)

theorem asks_collect_resolving (client : Client) (push : Push) (pushes : Nat)
    (revisions : List String) (state : State) :
    state.Asks push.branch (· ∈ revisions)
      (client.collect push.branch revisions
        (state.resolving push pushes)).2 := by
  have asks := (state.asks_resolving push pushes).trans
    (state.adds_resolving push pushes)
    (client.collect_asks push.branch revisions _)
  exact asks.mono fun revision _ member => member.resolve_left id

variable (many : 1 < pushes)

include many

/-- For a window the predictor is asked only about its revisions. -/
theorem evidenceFor_asks (client : Client) (push : Push) (state : State) :
    state.Asks push.branch
      (fun revision => ∃ revisions,
        PushLog.windowFor (client.environment.pushes state.history)
            push pushes = .ok revisions ∧
          revision ∈ revisions)
      (client.evidenceFor push pushes state).2 := by
  cases missing : state.cache.find? ⟨push.branch, push.revision, pushes⟩ with
  | some value =>
      rw [evidenceFor_remembered many missing]
      exact .of_same_history rfl
  | none =>
      cases resolves : PushLog.windowFor
        (client.environment.pushes state.history) push pushes with
      | error failure =>
          rw [evidenceFor_of_unresolved many missing resolves]
          exact (state.asks_resolving push pushes).mono nofun
      | ok revisions =>
          rw [evidenceFor_of_resolved many missing resolves]
          have asks := client.asks_collect_resolving push pushes revisions state
          apply (asks.followed (State.keep_history _ _ _)).mono
          intro revision _ member
          exact ⟨revisions, rfl, member⟩

theorem evidenceFor_of_pushLog_error {error : PushLogError}
    (failed :
      (client.evidenceFor push pushes state).1 = .error (.pushLog error)) :
    (client.evidenceFor push pushes state).2 = state.resolving push pushes := by
  cases missing : state.cache.find? ⟨push.branch, push.revision, pushes⟩ with
  | some value =>
      rw [evidenceFor_remembered many missing] at failed
      cases (Remembered.exists_of_told_error failed).choose_spec
  | none =>
      cases resolves : PushLog.windowFor
        (client.environment.pushes state.history) push pushes with
      | error failure => rw [evidenceFor_of_unresolved many missing resolves]
      | ok revisions =>
          rw [evidenceFor_of_resolved many missing resolves] at failed
          cases collected :
              (client.collect push.branch revisions
                (state.resolving push pushes)).1 with
          | ok results =>
              simp only [collected] at failed
              cases failed
          | error reason =>
              simp only [collected] at failed
              cases failed
              cases (exists_of_collect_error collected).choose_spec

end Window

/-- The window of a push fails with one of its revisions, after all before it
have been collected. -/
structure FailsAt (client : Client) (push : Push) (pushes : Nat) (state : State)
    (error : EvidenceError) (front : List String) (failing : String)
    (back : List String) (between after : State) : Prop where
  resolves :
      PushLog.windowFor (client.environment.pushes state.history) push pushes =
    .ok (front ++ failing :: back)
  collects : ∃ results,
    client.collect push.branch front (state.resolving push pushes) =
    (.ok results, between)
  fails : client.evidenceOf push.branch failing between =
    (.error (.evidence error), after)

theorem exists_failsAt {push : Push} {pushes : Nat} (many : 1 < pushes)
    (missing : state.cache.find? ⟨push.branch, push.revision, pushes⟩ = none)
    {error : EvidenceError}
    (failed :
      (client.evidenceFor push pushes state).1 = .error (.evidence error)) :
    ∃ front failing back between after,
      client.FailsAt push pushes state error front failing back between after ∧
      (client.evidenceFor push pushes state).2 =
        after.keep ⟨push.branch, push.revision, pushes⟩
          (.error (.evidence error)) := by
  cases resolves : PushLog.windowFor (client.environment.pushes state.history)
    push pushes with
  | error failure =>
      obtain ⟨reason, rfl⟩ := PushLog.exists_of_windowFor resolves
      rw [evidenceFor_of_unresolved many missing resolves] at failed
      cases failed
  | ok revisions =>
      have gathered := evidenceFor_of_resolved many missing resolves
      rw [gathered] at failed
      cases collected :
          (client.collect push.branch revisions
            (state.resolving push pushes)).1 with
      | ok results =>
          simp only [collected] at failed
          cases failed
      | error reason =>
          simp only [collected] at failed
          cases failed
          obtain ⟨front, failing, back, results, between, rfl, before, ends⟩ :=
            exists_failing_of_collect collected
          refine ⟨front, failing, back, between, _,
            ⟨resolves, ⟨results, before⟩, ends⟩, ?_⟩
          rw [gathered]
          simp only [collected]
          rfl

namespace FailsAt

variable {push : Push} {pushes : Nat} {error : EvidenceError}
  {front back : List String} {failing : String} {between : State}
  (failsAt :
    client.FailsAt push pushes state error front failing back between after)

include failsAt

theorem reached :
    state.Adds (front.map fun revision => ⟨push.branch, revision, 1⟩) between ∧
      state.Asks push.branch (· ∈ front) between := by
  obtain ⟨results, collected⟩ := failsAt.collects
  have adds := client.adds_collect_resolving push pushes front state
  have asks := client.asks_collect_resolving push pushes front state
  rw [collected] at adds asks
  exact ⟨adds, asks⟩

theorem adds :
    state.Adds ((front ++ [failing]).map fun revision =>
      ⟨push.branch, revision, 1⟩) after := by
  have last := client.evidenceOf_adds push.branch failing between
  rw [failsAt.fails] at last
  rw [List.map_append]
  exact failsAt.reached.1.trans last

theorem asks : state.Asks push.branch (· ∈ front ++ [failing]) after := by
  have last := client.evidenceOf_asks push.branch failing between
  rw [failsAt.fails] at last
  apply (failsAt.reached.2.trans failsAt.reached.1 last).mono
  intro revision _ member
  simpa using member

theorem ready {revision : String} (member : revision ∈ front) :
    ∃ evidence, after.cache.find? ⟨push.branch, revision, 1⟩ =
      some (.ready evidence) := by
  obtain ⟨results, collected⟩ := failsAt.collects
  obtain ⟨evidence, found⟩ := ready_of_collect collected revision member
  have last := client.evidenceOf_adds push.branch failing between
  rw [failsAt.fails] at last
  exact ⟨evidence, last.stays _ _ found⟩

/-- Nothing is remembered for the window yet. -/
theorem find?_window (many : 1 < pushes)
    (missing : state.cache.find? ⟨push.branch, push.revision, pushes⟩ = none) :
    after.cache.find? ⟨push.branch, push.revision, pushes⟩ = none := by
  rw [failsAt.adds.elsewhere, missing]
  intro member
  obtain ⟨revision, _, same⟩ := List.mem_map.mp member
  exact CacheKey.single_ne_window many same

theorem timedOut {elapsed : Nat}
    (late : error = .timeout branch revision elapsed) :
    branch = push.branch ∧ revision = failing ∧
      after.cache.find? ⟨push.branch, failing, 1⟩ =
        some (.timedOut elapsed) := by
  subst late
  obtain ⟨sameBranch, sameRevision⟩ :=
    evidenceOf_timeout (congrArg Prod.fst failsAt.fails)
  refine ⟨sameBranch, sameRevision, ?_⟩
  have conclusive :
      Conclusive (client.evidenceOf push.branch failing between).1 := by
    rw [failsAt.fails]
    exact rfl
  obtain ⟨value, found, told⟩ := exists_find?_evidenceOf conclusive
  rw [failsAt.fails] at found told
  cases value with
  | ready evidence => cases told
  | timedOut lasted =>
      cases told
      exact found

theorem forgets (hard : (Failure.evidence error).isTimeout = false) :
    state.Adds (front.map fun revision => ⟨push.branch, revision, 1⟩) after ∧
      after.cache.find? ⟨push.branch, failing, 1⟩ = none := by
  obtain ⟨sameCache, unknown⟩ := evidenceOf_of_hard hard failsAt.fails
  exact ⟨failsAt.reached.1.followed sameCache, sameCache ▸ unknown⟩

/-- As long as what is remembered stays, gathering the window again asks about
no revision before the failing one. -/
theorem asks_again (many : 1 < pushes) {later : State}
    (stays : ∀ key value, after.cache.find? key = some value →
      later.cache.find? key = some value) :
    later.Asks push.branch
      (fun revision => revision ∉ front ∧
        (PushLog.windowFor (client.environment.pushes later.history)
            push pushes =
          PushLog.windowFor (client.environment.pushes state.history)
            push pushes →
        revision ∈ failing :: back))
      (client.evidenceFor push pushes later).2 := by
  apply (evidenceFor_asks many client push later).mono
  rintro revision missing ⟨revisions, resolves, member⟩
  have notBefore : revision ∉ front := by
    intro early
    obtain ⟨evidence, found⟩ := failsAt.ready early
    rw [stays _ _ found] at missing
    cases missing
  refine ⟨notBefore, ?_⟩
  intro sameWindow
  rw [sameWindow, failsAt.resolves] at resolves
  cases resolves
  exact (List.mem_append.mp member).resolve_left notBefore

end FailsAt

/-- When evidence for a window cannot be had:

* a failure of the push log leaves the cache as it is, and nothing is asked of
  the predictor;
* otherwise it is a revision of the window that fails; the revisions before it
  are remembered as ready, and the predictor was asked about no later one, nor
  about any that was remembered;
* a timeout of that revision is remembered for it and for the window, and
  nothing else besides;
* of other failures nothing is remembered, and as long as the cache is not
  cleared the same call asks about no revision before the one that failed.

A window that is remembered itself is answered without doing anything. -/
theorem evidenceFor_resumable (client : Client) (push : Push) {pushes : Nat}
    (many : 2 ≤ pushes) (state : State) :
    let key : CacheKey := ⟨push.branch, push.revision, pushes⟩
    let single (revision : String) : CacheKey := ⟨push.branch, revision, 1⟩
    let window (state : State) :=
      PushLog.windowFor (client.environment.pushes state.history) push pushes
    let result := client.evidenceFor push pushes state
    (∀ value, state.cache.find? key = some value →
      result = (value.told push.branch push.revision, state)) ∧
    (∀ error, result.1 = .error (.pushLog error) →
      result.2.cache = state.cache ∧
        ∀ branch revision,
          result.2.fetches branch revision = state.fetches branch revision) ∧
    ∀ error, state.cache.find? key = none →
      result.1 = .error (.evidence error) →
      ∃ front failing back between,
        window state = .ok (front ++ failing :: back) ∧
        (∃ results,
          client.collect push.branch front (state.resolving push pushes) =
          (.ok results, between)) ∧
        (client.evidenceOf push.branch failing between).1 =
          .error (.evidence error) ∧
        (∀ revision ∈ front, ∃ evidence,
          result.2.cache.find? (single revision) = some (.ready evidence)) ∧
        state.Asks push.branch (· ∈ front ++ [failing]) result.2 ∧
        (∀ branch revision elapsed, error = .timeout branch revision elapsed →
          branch = push.branch ∧ revision = failing ∧
          state.Adds ((front ++ [failing]).map single ++ [key]) result.2 ∧
          result.2.cache.find? (single failing) = some (.timedOut elapsed) ∧
          result.2.cache.find? key = some (.timedOut elapsed)) ∧
        ((Failure.evidence error).isTimeout = false →
          state.Adds (front.map single) result.2 ∧
          result.2.cache.find? (single failing) = none ∧
          result.2.cache.find? key = none ∧
          ∀ later : State,
            (∀ other value, result.2.cache.find? other = some value →
              later.cache.find? other = some value) →
            later.Asks push.branch
              (fun revision => revision ∉ front ∧
                (window later = window state → revision ∈ failing :: back))
              (client.evidenceFor push pushes later).2) := by
  intro key single window result
  refine ⟨fun value found => evidenceFor_remembered many found, ?_, ?_⟩
  · intro error failed
    have asked : result.2 = state.resolving push pushes :=
      evidenceFor_of_pushLog_error many failed
    rw [asked]
    refine ⟨?_, (state.asks_resolving push pushes).fetches_eq⟩
    unfold State.resolving
    split <;> rfl
  · intro error missing failed
    obtain ⟨front, failing, back, between, after, failsAt, kept⟩ :=
      exists_failsAt many missing failed
    have ended : result.2 = after.keep key (.error (.evidence error)) := kept
    have noWindow := failsAt.find?_window many missing
    refine ⟨front, failing, back, between, failsAt.resolves, failsAt.collects,
      congrArg Prod.fst failsAt.fails, ?_, ?_, ?_, ?_⟩
    · intro revision member
      rw [ended, State.find?_single_keep many]
      exact failsAt.ready member
    · exact failsAt.asks.followed (ended ▸ State.keep_history _ _ _)
    · rintro branch revision elapsed late
      obtain ⟨sameBranch, sameRevision, found⟩ := failsAt.timedOut late
      have remembers : result.2 = after.remember key (.timedOut elapsed) := by
        rw [ended, late]
        rfl
      refine ⟨sameBranch, sameRevision, ?_, ?_, ?_⟩
      · rw [remembers]
        exact failsAt.adds.trans (.remember noWindow _)
      · rw [ended, State.find?_single_keep many]
        exact found
      · rw [remembers, State.find?_remember, if_pos rfl]
    · intro hard
      have same : result.2 = after := by
        rw [ended, State.keep, Remembered.ofAnswer?_hard hard]
      obtain ⟨adds, unknown⟩ := failsAt.forgets hard
      rw [same]
      exact ⟨adds, unknown, noWindow,
        fun later stays => failsAt.asks_again many stays⟩

/-- A predictor that is ready for one revision and refuses all others, and a
push log of two pushes. -/
def refusingClient : Client where
  environment := {
    fetch := fun _ _ revision =>
      (if revision = "first" then
        .ok (.ready {}) else .error (.http "url" (some 500) "down"), 1)
    pushes :=
      fun _ _ _ _ => .ok (Table.ofList [(1, ⟨["first"]⟩), (2, ⟨["second"]⟩)]) }
  polling := { interval := 2, timeout := 5, positive := Nat.two_pos }

/-- The window of the third push fails with the second, and neither is
remembered. -/
theorem evidenceFor_resumable_of_refusal :
    let push : Push := {
      branch := "autoland", repository := "repo", revision := "head",
      project := "autoland", id := 3 }
    let result := refusingClient.evidenceFor push 3 {}
    2 ≤ 3 ∧ result.1 = .error (.evidence (.http "url" (some 500) "down")) ∧
      result.2.cache.find? ⟨"autoland", "head", 3⟩ = none ∧
      ∃ front failing back,
        ["first", "second", "head"] = front ++ failing :: back ∧
        result.2.cache.find? ⟨"autoland", failing, 1⟩ = none ∧
        ∀ revision ∈ front, ∃ evidence,
          result.2.cache.find? ⟨"autoland", revision, 1⟩ =
            some (.ready evidence) := by
  intro push result
  have many : 2 ≤ 3 := by decide
  have resolves :
      PushLog.windowFor (refusingClient.environment.pushes []) push 3 =
      .ok ["first", "second", "head"] := by rfl
  have missing : ({} : State).cache.find? ⟨push.branch, push.revision, 3⟩ =
      none := rfl
  have failed :
      result.1 = .error (.evidence (.http "url" (some 500) "down")) := by
    have constant : refusingClient.environment.AnswersAlways fun _ revision =>
        if revision = "first" then .ok (.ready {})
        else .error (.http "url" (some 500) "down") := fun _ _ _ => rfl
    have unknown : (State.resolving {} push 3).cache.find?
        ⟨push.branch, "first", 1⟩ = none := rfl
    have kept : Remembered.ofOutcome
        (refusingClient.poll push.branch "first"
          (State.resolving {} push 3)).1 =
          .ok (.ready {}) := by
      rw [poll_always_ready constant rfl]
      rfl
    have refused : ∀ state, Remembered.ofOutcome
        (refusingClient.poll push.branch "second" state).1 =
          .error (.http "url" (some 500) "down") := by
      intro state
      rw [poll_always_failed constant rfl]
      rfl
    have stillUnknown : ((refusingClient.poll push.branch "first"
        (State.resolving {} push 3)).2.remember ⟨push.branch, "first", 1⟩
          (.ready {})).cache.find? ⟨push.branch, "second", 1⟩ = none := by
      rw [State.find?_remember, if_neg (by decide), poll_cache]
      rfl
    have gathered := evidenceFor_of_resolved many missing resolves
    simp only [collect_cons_ok (evidenceOf_polled unknown kept),
      collect_cons_error (evidenceOf_failed stillUnknown (refused _))]
      at gathered
    exact congrArg Prod.fst gathered
  obtain ⟨_, _, fails⟩ := evidenceFor_resumable refusingClient push many {}
  obtain ⟨front, failing, back, _, window, _, _, ready, _, _, hard⟩ :=
    fails _ missing failed
  obtain ⟨_, unknown, noWindow, _⟩ := hard rfl
  refine ⟨many, failed, noWindow, front, failing, back, ?_, unknown, ready⟩
  exact Except.ok.inj (resolves.symm.trans window)

end Client

end TaskSieve
