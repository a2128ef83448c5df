import TaskSieve.Proofs.Evidence.Gathering
import TaskSieve.Proofs.Memo

/-!
# Evidence for one push during a run

The predictor replies by a script: what it says next about a revision depends
on how often it was asked about that revision.  During a run about one push a
revision is polled until its outcome is remembered, and never again.  So
whatever is still unknown has not been asked about since the run started, and
whatever is known is what would have been answered at the start.
-/

namespace TaskSieve

open Step

/-- What a window of a push answers from a starting state on: what is remembered
for it, or what its revisions would answer at the start. -/
def Client.windowFrom (client : Client)
    (log :
      (repository : String) → (first last : Int) → Except PushLogError PushLog)
    (push : Push) (start : State) (pushes : Nat) : Except Failure Evidence :=
  match start.cache.find? ⟨push.branch, push.revision, pushes⟩ with
  | some value => value.told push.branch push.revision
  | none =>
      Evidence.windowAnswer (fun revision =>
        (client.evidenceOf push.branch revision start).1) log
        push pushes

/-- A starting state leads to a state during a run about a push: outcomes that
are still missing have not been polled for, and remembered ones are those that
are found from the start. -/
structure State.LeadsTo (client : Client)
    (log :
      (repository : String) → (first last : Int) → Except PushLogError PushLog)
    (context : Context) (push : Push) (start state : State) : Prop where
  unasked : ∀ revision, state.cache.find? ⟨push.branch, revision, 1⟩ = none →
    start.cache.find? ⟨push.branch, revision, 1⟩ = none ∧
      state.fetches push.branch revision = start.fetches push.branch revision
  single : ∀ revision value, state.cache.find? ⟨push.branch, revision, 1⟩ =
    some value →
    SameAnswer (value.told push.branch revision)
      (client.evidenceOf push.branch revision start).1
  ungathered : ∀ pushes, 1 < pushes →
    state.cache.find? ⟨push.branch, push.revision, pushes⟩ = none →
    start.cache.find? ⟨push.branch, push.revision, pushes⟩ = none
  window : ∀ pushes, 1 < pushes → ∀ value,
    state.cache.find? ⟨push.branch, push.revision, pushes⟩ = some value →
    SameAnswer (value.told push.branch push.revision)
      (client.windowFrom log push start pushes)
  memo : context.Extends start.memo state.memo

namespace State.LeadsTo

variable {client : Client}
  {log :
    (repository : String) → (first last : Int) → Except PushLogError PushLog}
  {context : Context} {push : Push} {start state : State}

theorem refl : start.LeadsTo client log context push start where
  unasked _ missing := ⟨missing, rfl⟩
  single revision value found := by
    rw [Client.evidenceOf_remembered found]
    exact .same _
  ungathered _ _ missing := missing
  window pushes _ value found := by
    rw [Client.windowFrom, found]
    exact .same _
  memo := .refl

/-- Only the cache, the memo and the numbers of requests matter. -/
theorem of_same {after : State}
    (continues : start.LeadsTo client log context push state)
    (sameCache : after.cache = state.cache) (sameFetches : ∀ revision,
      after.fetches push.branch revision = state.fetches push.branch revision)
    (memo : context.Extends start.memo after.memo) :
    start.LeadsTo client log context push after where
  unasked revision missing := by
    rw [sameCache] at missing
    rw [sameFetches]
    exact continues.unasked revision missing
  single revision value found := by
    rw [sameCache] at found
    exact continues.single revision value found
  ungathered pushes many missing := by
    rw [sameCache] at missing
    exact continues.ungathered pushes many missing
  window pushes many value found := by
    rw [sameCache] at found
    exact continues.window pushes many value found
  memo := memo

/-- Polling for a missing outcome and remembering it. -/
theorem remember_polled {revision : String} {value : Remembered}
    (continues : start.LeadsTo client log context push state)
    (agree : SameAnswer (value.told push.branch revision)
      (client.evidenceOf push.branch revision start).1) :
    start.LeadsTo client log context push
      ((client.poll push.branch revision state).2.remember
        ⟨push.branch, revision, 1⟩ value) where
  unasked other missing := by
    simp only [State.remember, Table.find?_insert, Client.poll_cache] at missing
    split at missing
    · cases missing
    · rename_i different
      obtain ⟨startMissing, sameFetches⟩ := continues.unasked other missing
      refine ⟨startMissing, ?_⟩
      rw [← sameFetches]
      apply Client.poll_fetches_of_ne
      rintro ⟨_, rfl⟩
      exact different rfl
  single other held found := by
    simp only [State.remember, Table.find?_insert, Client.poll_cache] at found
    split at found
    · rename_i same
      cases same
      cases found
      exact agree
    · exact continues.single other held found
  ungathered pushes many missing := by
    rw [State.remember,
      Table.find?_insert_of_ne _ _ (CacheKey.single_ne_window many).symm,
      Client.poll_cache] at missing
    exact continues.ungathered pushes many missing
  window pushes many held found := by
    rw [State.remember,
      Table.find?_insert_of_ne _ _ (CacheKey.single_ne_window many).symm,
      Client.poll_cache] at found
    exact continues.window pushes many held found
  memo := by
    simp only [State.remember, Client.poll_memo]
    exact continues.memo

theorem remember_window {pushes : Nat} {value : Remembered} (many : 1 < pushes)
    (continues : start.LeadsTo client log context push state)
    (agree : SameAnswer (value.told push.branch push.revision)
      (client.windowFrom log push start pushes)) :
    start.LeadsTo client log context push
      (state.remember ⟨push.branch, push.revision, pushes⟩ value) where
  unasked revision missing := by
    rw [State.remember,
      Table.find?_insert_of_ne _ _ (CacheKey.single_ne_window many)] at missing
    exact continues.unasked revision missing
  single revision held found := by
    rw [State.remember,
      Table.find?_insert_of_ne _ _ (CacheKey.single_ne_window many)] at found
    exact continues.single revision held found
  ungathered otherPushes otherMany missing := by
    simp only [State.remember, Table.find?_insert] at missing
    split at missing
    · cases missing
    · exact continues.ungathered otherPushes otherMany missing
  window otherPushes otherMany held found := by
    simp only [State.remember, Table.find?_insert] at found
    split at found
    · rename_i same
      cases same
      cases found
      exact agree
    · exact continues.window otherPushes otherMany held found
  memo := continues.memo

theorem record {event : Event}
    (notFetched : ∀ revision, event ≠ .fetched push.branch revision)
    (continues : start.LeadsTo client log context push state) :
    start.LeadsTo client log context push (state.record event) := by
  have sameFetches : ∀ revision,
      (state.record event).fetches push.branch revision =
        state.fetches push.branch revision := by
    intro revision
    simp [State.fetches, State.record, notFetched revision]
  exact continues.of_same rfl sameFetches continues.memo

theorem allowsDeriving :
    context.AllowsDeriving start.memo
      (start.LeadsTo client log context push) where
  extending _ continues := continues.memo
  noted state key continues := continues.record nofun
  kept state key value continues absent derives := by
    have noted :
        start.LeadsTo client log context push (state.record (.derived key)) :=
      continues.record nofun
    exact noted.of_same rfl (fun _ => rfl)
      (continues.memo.insert absent derives)

end State.LeadsTo

namespace Client

variable {client : Client}
  {log :
    (repository : String) → (first last : Int) → Except PushLogError PushLog}
  {context : Context} {push : Push} {start : State}
  {script : (branch revision : String) → Nat → Except EvidenceError Reply × Nat}

/-- A revision answers during the whole run what it would have answered at the
start. -/
theorem evidenceOf_settles_from
    (scripted : client.environment.FollowsScript script) (revision : String) :
    Settles (start.LeadsTo client log context push)
      (fun failure => failure.isTimeout = true)
      (client.evidenceOf push.branch revision)
      (client.evidenceOf push.branch revision start).1 := by
  apply Settles.of_results
  intro state continues
  cases present : state.cache.find? ⟨push.branch, revision, 1⟩ with
  | some value =>
      exact ⟨_, state, evidenceOf_remembered present,
        continues.single revision value present, fun _ => continues⟩
  | none =>
      obtain ⟨missing, sameFetches⟩ := continues.unasked revision present
      have sameOutcome := poll_scripted scripted sameFetches
      cases outcome :
          Remembered.ofOutcome (client.poll push.branch revision start).1 with
      | ok value =>
          have now := evidenceOf_polled missing outcome
          rw [← sameOutcome] at outcome
          refine ⟨_, _, evidenceOf_polled present outcome, ?_, fun _ => ?_⟩
          · rw [now]
            exact .same _
          · apply continues.remember_polled
            rw [now]
            exact .same _
      | error error =>
          have now := evidenceOf_failed missing outcome
          have hard := Remembered.hard_of_ofOutcome outcome
          rw [← sameOutcome] at outcome
          refine ⟨_, _, evidenceOf_failed present outcome, ?_, fun passes => ?_⟩
          · rw [now]
            exact .same _
          · have late := passes _ rfl
            rw [hard] at late
            cases late

/-- Every window of the push answers the same during the whole run. -/
theorem evidenceFor_settles_from
    (scripted : client.environment.FollowsScript script)
    (fixed : client.environment.HasFixedLog log) (pushes : Nat) :
    ∃ answer, Settles (start.LeadsTo client log context push)
      (fun failure => failure.isTimeout = true) (client.evidenceFor push pushes)
        answer := by
  by_cases many : 1 < pushes
  · refine ⟨client.windowFrom log push start pushes, ?_⟩
    cases startPresent :
        start.cache.find? ⟨push.branch, push.revision, pushes⟩ with
    | some value =>
        apply evidenceFor_settles_of_remembered many
        intro state continues
        cases present :
            state.cache.find? ⟨push.branch, push.revision, pushes⟩ with
        | none =>
            have missing := continues.ungathered pushes many present
            rw [startPresent] at missing
            cases missing
        | some held =>
            exact ⟨held, rfl, continues.window pushes many held present⟩
    | none =>
        have gathered : client.windowFrom log push start pushes =
            Evidence.windowAnswer
              (fun revision => (client.evidenceOf push.branch revision start).1)
                log push
              pushes := by
          rw [windowFrom, startPresent]
        rw [gathered]
        apply evidenceFor_settles many (fun _ _ _ => rfl) fixed
        · intro state repository first last continues
          exact continues.record nofun
        · exact evidenceOf_settles_from scripted
        · intro state value continues found
          rw [← gathered]
          exact continues.window pushes many value found
        · intro state value continues agree
          rw [← gathered] at agree
          exact continues.remember_window many agree
  · rw [evidenceFor_few (Nat.le_of_not_gt many)]
    exact ⟨_, evidenceOf_settles_from scripted push.revision⟩

end Client

end TaskSieve
