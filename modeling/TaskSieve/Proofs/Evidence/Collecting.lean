import Mathlib.Data.List.Forall2
import TaskSieve.Proofs.Evidence.Merging
import TaskSieve.Proofs.Evidence.Requests
import TaskSieve.Proofs.Evidence.Resolving

/-!
# How a window is gathered

Gathering a window comes in two parts.  First the evidence of its revisions is
collected, one look-up after the other, up to the first failure.  Then the
merge of all of it, or the timeout that ended it, is remembered for the window.
While the revisions are looked up only outcomes of single revisions are
remembered, so what is remembered for the window in the end is justified by
what is remembered for its revisions.
-/

namespace TaskSieve

open Step

/-- What is remembered of an answer for a window: evidence or a timeout, but no
other failure. -/
def Remembered.ofAnswer? : Except Failure Evidence → Option Remembered
  | .ok evidence => some (.ready evidence)
  | .error (.evidence (.timeout _ _ elapsed)) => some (.timedOut elapsed)
  | .error _ => none

theorem Remembered.ofAnswer?_hard {failure : Failure}
    (hard : failure.isTimeout = false) : ofAnswer? (.error failure) = none := by
  cases failure with
  | evidence error =>
      cases error with
      | timeout branch revision elapsed => cases hard
      | http url status detail => rfl
      | decode url detail => rfl
  | config error => rfl
  | pushLog error => rfl
  | strategy error => rfl

@[simp] theorem Remembered.ofAnswer?_told (branch revision : String)
    (value : Remembered) :
    ofAnswer? (value.told branch revision) = some value := by
  cases value with
  | ready evidence => rfl
  | timedOut elapsed => rfl

theorem Remembered.exists_of_told_error {branch revision : String}
    {value : Remembered} {failure : Failure}
    (failed : value.told branch revision = .error failure) :
    ∃ error, failure = .evidence error := by
  cases value with
  | ready evidence => cases failed
  | timedOut elapsed =>
      cases failed
      exact ⟨_, rfl⟩

theorem Remembered.exists_ofAnswer? {answer : Except Failure Evidence}
    (conclusive : Conclusive answer) :
    ∃ value, ofAnswer? answer = some value ∧
      ∀ evidence, answer = .ok evidence → value = .ready evidence := by
  cases answer with
  | ok evidence =>
      refine ⟨.ready evidence, rfl, ?_⟩
      intro other same
      cases same
      rfl
  | error failure =>
      obtain ⟨branch, revision, elapsed, rfl⟩ :=
        Failure.exists_of_isTimeout conclusive
      exact ⟨.timedOut elapsed, rfl, nofun⟩

namespace State

/-- Remembers an answer, as far as it is one to remember. -/
def keep (state : State) (key : CacheKey) (answer : Except Failure Evidence) :
    State :=
  match Remembered.ofAnswer? answer with
  | some value => state.remember key value
  | none => state

theorem keep_history (state : State) (key : CacheKey)
    (answer : Except Failure Evidence) :
    (state.keep key answer).history = state.history := by
  unfold keep
  split <;> rfl

theorem find?_remember (state : State) (key other : CacheKey)
    (value : Remembered) :
    (state.remember key value).cache.find? other =
      if other = key then some value else state.cache.find? other :=
  Table.find?_insert state.cache key other value

/-- What is remembered for a window of several pushes is nothing about a single
revision. -/
theorem find?_single_keep {state : State}
    {branch revision otherBranch head : String} {pushes : Nat}
    (many : 1 < pushes) {answer : Except Failure Evidence} :
    (state.keep ⟨otherBranch, head, pushes⟩ answer).cache.find?
      ⟨branch, revision, 1⟩ =
      state.cache.find? ⟨branch, revision, 1⟩ := by
  unfold keep
  split
  · rw [find?_remember, if_neg (CacheKey.single_ne_window many)]
  · rfl

theorem find?_resolving (state : State) (push : Push) (pushes : Nat)
    (key : CacheKey) :
    (state.resolving push pushes).cache.find? key = state.cache.find? key := by
  unfold resolving
  split <;> rfl

/-- What the remembered outcomes of single revisions allow to remember for a
window of pushes: the merge of some of them that end with the revision of the
window, or the timeout of one. -/
def Justifies (state : State) (key : CacheKey) : Remembered → Prop
  | .ready evidence =>
      ∃ (revisions : List String) (results : List Evidence),
        revisions.length ≤ key.pushes ∧ revisions.getLast? = some key.revision ∧
        List.Forall₂
          (fun revision result =>
            state.cache.find? ⟨key.branch, revision, 1⟩ = some (.ready result))
          revisions results ∧
        evidence = Evidence.merged results
  | .timedOut elapsed =>
      ∃ revision, state.cache.find? ⟨key.branch, revision, 1⟩ =
        some (.timedOut elapsed)

theorem Justifies.mono {state after : State} {key : CacheKey}
    {value : Remembered} (justified : state.Justifies key value)
    (stays : ∀ branch revision outcome,
      state.cache.find? ⟨branch, revision, 1⟩ = some outcome →
      after.cache.find? ⟨branch, revision, 1⟩ = some outcome) :
    after.Justifies key value := by
  cases value with
  | ready evidence =>
      obtain ⟨revisions, results, few, ends, found, merged⟩ := justified
      refine ⟨revisions, results, few, ends, ?_, merged⟩
      exact found.imp fun revision result present => stays _ _ _ present
  | timedOut elapsed =>
      obtain ⟨revision, found⟩ := justified
      exact ⟨revision, stays _ _ _ found⟩

end State

namespace Client

variable {client : Client} {branch revision : String} {push : Push}
  {pushes : Nat}

/-- Evidence of a revision is remembered, or polled for and then remembered, or
the poll fails and nothing is remembered. -/
theorem evidenceOf_cases (client : Client) (branch revision : String)
    (state : State) :
    (∃ value, state.cache.find? ⟨branch, revision, 1⟩ = some value ∧
      client.evidenceOf branch revision state =
        (value.told branch revision, state)) ∨
    state.cache.find? ⟨branch, revision, 1⟩ = none ∧
      ((∃ value,
        Remembered.ofOutcome (client.poll branch revision state).1 = .ok value ∧
        client.evidenceOf branch revision state =
          (value.told branch revision,
            (client.poll branch revision state).2.remember ⟨branch, revision, 1⟩
              value)) ∨
      ∃ error,
        Remembered.ofOutcome (client.poll branch revision state).1 =
          .error error ∧
        client.evidenceOf branch revision state =
          (.error (.evidence error),
            (client.poll branch revision state).2)) := by
  cases found : state.cache.find? ⟨branch, revision, 1⟩ with
  | some value => exact .inl ⟨value, rfl, evidenceOf_remembered found⟩
  | none =>
      refine .inr ⟨rfl, ?_⟩
      cases outcome :
          Remembered.ofOutcome (client.poll branch revision state).1 with
      | ok value => exact .inl ⟨value, rfl, evidenceOf_polled found outcome⟩
      | error error => exact .inr ⟨error, rfl, evidenceOf_failed found outcome⟩

/-- Looking up a revision asks about that revision at most, and waits. -/
theorem evidenceOf_history (client : Client) (branch revision : String)
    (state : State) :
    ∃ added, (client.evidenceOf branch revision state).2.history =
      added ++ state.history ∧
      ∀ event ∈ added, event = .fetched branch revision ∨
        ∃ duration, event = .slept duration := by
  obtain ⟨added, grown, polled⟩ := client.poll_polled branch revision state
  rcases evidenceOf_cases client branch revision state with
    ⟨_, _, same⟩ | ⟨_, ⟨outcome, _, same⟩ | ⟨error, _, same⟩⟩
  · exact ⟨[], by rw [same]; rfl, by simp⟩
  · exact ⟨added, by rw [same]; exact grown,
      fun _ => polled.eq_fetched_or_slept⟩
  · exact ⟨added, by rw [same]; exact grown,
      fun _ => polled.eq_fetched_or_slept⟩

theorem find?_evidenceOf {state : State} {key : CacheKey} {value : Remembered}
    (found : state.cache.find? key = some value) :
    (client.evidenceOf branch revision state).2.cache.find? key =
      some value := by
  rcases evidenceOf_cases client branch revision state with
    ⟨_, _, same⟩ | ⟨missing, ⟨outcome, _, same⟩ | ⟨error, _, same⟩⟩
  · rw [same]
    exact found
  · rw [same, State.find?_remember, poll_cache, if_neg]
    · exact found
    · rintro rfl
      rw [missing] at found
      cases found
  · rw [same, poll_cache]
    exact found

theorem find?_window_evidenceOf {state : State} {key : CacheKey}
    (many : 1 < key.pushes) :
    (client.evidenceOf branch revision state).2.cache.find? key =
      state.cache.find? key := by
  rcases evidenceOf_cases client branch revision state with
    ⟨_, _, same⟩ | ⟨_, ⟨outcome, _, same⟩ | ⟨error, _, same⟩⟩
  · rw [same]
  · rw [same, State.find?_remember, poll_cache, if_neg]
    rintro rfl
    exact Nat.lt_irrefl _ many
  · rw [same, poll_cache]

/-- Evidence that is remembered after looking up a revision was remembered
before, or the predictor has just answered with it. -/
theorem found_or_received_evidenceOf {state : State} {key : CacheKey}
    {evidence : Evidence}
    (found : (client.evidenceOf branch revision state).2.cache.find? key =
      some (.ready evidence)) :
    state.cache.find? key = some (.ready evidence) ∨
      key = ⟨branch, revision, 1⟩ ∧
        client.environment.Received branch revision evidence state.history
          (client.evidenceOf branch revision state).2.history := by
  obtain ⟨added, grown, polled⟩ := client.poll_polled branch revision state
  rcases evidenceOf_cases client branch revision state with
    ⟨_, _, same⟩ | ⟨_, ⟨outcome, kept, same⟩ | ⟨error, _, same⟩⟩
  · rw [same] at found
    exact .inl found
  · rw [same] at found ⊢
    rw [State.find?_remember] at found
    by_cases here : key = ⟨branch, revision, 1⟩
    · rw [if_pos here] at found
      cases found
      rw [Remembered.eq_ok_of_ofOutcome kept] at polled
      exact .inr ⟨here, polled.received.mono List.suffix_rfl ⟨[], grown.symm⟩⟩
    · rw [if_neg here, poll_cache] at found
      exact .inl found
  · rw [same, poll_cache] at found
    exact .inl found

/-- Looking up a revision that is not remembered polls for it, and remembers
evidence and timeouts. -/
theorem evidenceOf_of_missing {state : State}
    (missing : state.cache.find? ⟨branch, revision, 1⟩ = none) :
    (client.evidenceOf branch revision state).2.history =
        (client.poll branch revision state).2.history ∧
      (Conclusive ((client.poll branch revision state).1.mapError .evidence) →
        ∃ value, (client.evidenceOf branch revision state).2.cache.find?
          ⟨branch, revision, 1⟩ =
          some value) := by
  rcases evidenceOf_cases client branch revision state with
    ⟨value, found, _⟩ | ⟨_, ⟨value, kept, same⟩ | ⟨error, failed, same⟩⟩
  · rw [missing] at found
    cases found
  · rw [same]
    exact ⟨rfl, fun _ => ⟨value, by rw [State.find?_remember, if_pos rfl]⟩⟩
  · rw [same]
    refine ⟨rfl, ?_⟩
    intro conclusive
    obtain ⟨value, kept⟩ := Remembered.conclusive_iff.mp conclusive
    rw [failed] at kept
    cases kept

/-- Evidence and timeouts of a revision are remembered. -/
theorem exists_find?_evidenceOf {state : State}
    (conclusive : Conclusive (client.evidenceOf branch revision state).1) :
    ∃ value,
      (client.evidenceOf branch revision state).2.cache.find?
        ⟨branch, revision, 1⟩ =
        some value ∧
      (client.evidenceOf branch revision state).1 =
        value.told branch revision := by
  rcases evidenceOf_cases client branch revision state with
    ⟨value, found, same⟩ | ⟨_, ⟨value, _, same⟩ | ⟨error, failed, same⟩⟩
  · exact ⟨value, by rw [same, found], by rw [same]⟩
  · exact ⟨value, by rw [same, State.find?_remember, if_pos rfl], by rw [same]⟩
  · rw [same, Conclusive, Remembered.hard_of_ofOutcome failed] at conclusive
    cases conclusive

/-- Asks for the evidence of revisions one after the other, up to the first
failure. -/
def collect (client : Client) (branch : String) :
    List String → Step (List Evidence)
  | [] => pure []
  | revision :: rest => do
      let evidence ← client.evidenceOf branch revision
      let others ← client.collect branch rest
      return evidence :: others

section Collect

variable {rest : List String} {state after : State}

theorem collect_cons_ok {evidence : Evidence}
    (answered :
      client.evidenceOf branch revision state = (.ok evidence, after)) :
    client.collect branch (revision :: rest) state =
      ((client.collect branch rest after).1.map (evidence :: ·),
        (client.collect branch rest after).2) := by
  rw [collect, bind_apply_ok _ answered]
  cases collected : client.collect branch rest after with
  | mk answer final =>
      cases answer with
      | ok others =>
          rw [bind_apply_ok _ collected]
          rfl
      | error failure =>
          rw [bind_apply_error _ collected]
          rfl

theorem collect_cons_error {failure : Failure}
    (answered :
      client.evidenceOf branch revision state = (.error failure, after)) :
    client.collect branch (revision :: rest) state =
      (.error failure, after) := by
  rw [collect, bind_apply_error _ answered]

theorem collect_preserves (invariant : State → Prop)
    (kept : ∀ revision, Preserves invariant (client.evidenceOf branch revision))
    (revisions : List String) :
    Preserves invariant (client.collect branch revisions) := by
  induction revisions with
  | nil => exact Preserves.pure []
  | cons revision rest induction =>
      rw [collect]
      apply (kept revision).bind
      intro evidence
      apply induction.bind
      intro others
      exact Preserves.pure _

theorem find?_collect {key : CacheKey} {value : Remembered}
    (revisions : List String) (found : state.cache.find? key = some value) :
    (client.collect branch revisions state).2.cache.find? key = some value :=
  collect_preserves (fun state => state.cache.find? key = some value)
    (fun _ _ present => find?_evidenceOf present) revisions state found

theorem find?_window_collect {key : CacheKey} (many : 1 < key.pushes)
    (revisions : List String) (state : State) :
    (client.collect branch revisions state).2.cache.find? key =
      state.cache.find? key :=
  collect_preserves (fun after => after.cache.find? key = state.cache.find? key)
    (fun _ _ same => (find?_window_evidenceOf many).trans same) revisions
      state rfl

/-- Collecting asks about revisions of the branch and waits, and does nothing
else that shows. -/
theorem collect_history (client : Client) (branch : String)
    (revisions : List String) (state : State) :
    ∃ added, (client.collect branch revisions state).2.history =
      added ++ state.history ∧
      ∀ event ∈ added,
        (∃ revision, event = .fetched branch revision) ∨
        ∃ duration, event = .slept duration := by
  apply collect_preserves (fun after => ∃ added,
    after.history = added ++ state.history ∧ ∀ event ∈ added,
      (∃ revision, event = .fetched branch revision) ∨
      ∃ duration, event = .slept duration)
  · rintro revision after ⟨earlier, grown, requests⟩
    obtain ⟨added, grownMore, moreRequests⟩ :=
      client.evidenceOf_history branch revision after
    refine ⟨added ++ earlier, by rw [grownMore, grown, List.append_assoc], ?_⟩
    intro event member
    rcases List.mem_append.mp member with later | before
    · exact (moreRequests event later).imp (fun same => ⟨revision, same⟩) id
    · exact requests event before
  · exact ⟨[], rfl, by simp⟩

/-- What was collected is remembered, revision by revision. -/
theorem forall₂_find?_collect {revisions : List String}
    {results : List Evidence}
    (collected : (client.collect branch revisions state).1 = .ok results) :
    List.Forall₂
      (fun revision result =>
        (client.collect branch revisions state).2.cache.find?
          ⟨branch, revision, 1⟩ =
          some (.ready result))
      revisions results := by
  induction revisions generalizing state results with
  | nil =>
      cases collected
      exact .nil
  | cons revision rest induction =>
      cases answered : client.evidenceOf branch revision state with
      | mk answer after =>
          cases answer with
          | error failure =>
              rw [collect_cons_error answered] at collected
              cases collected
          | ok evidence =>
              rw [collect_cons_ok answered] at collected ⊢
              cases others : (client.collect branch rest after).1 with
              | error failure =>
                  rw [others] at collected
                  cases collected
              | ok later =>
                  rw [others] at collected
                  cases collected
                  have conclusive : Conclusive
                      (client.evidenceOf branch revision state).1 := by
                    rw [answered]
                    trivial
                  obtain ⟨value, found, same⟩ :=
                    exists_find?_evidenceOf conclusive
                  rw [answered] at found same
                  cases value with
                  | timedOut elapsed => cases same
                  | ready other =>
                      cases same
                      exact .cons (find?_collect rest found) (induction others)

/-- The timeout that ended collecting is remembered for one of the revisions. -/
theorem exists_timedOut_collect {revisions : List String} {first named : String}
    {elapsed : Nat}
    (late : (client.collect branch revisions state).1 =
      .error (.evidence (.timeout first named elapsed))) :
    ∃ revision, (client.collect branch revisions state).2.cache.find?
      ⟨branch, revision, 1⟩ =
      some (.timedOut elapsed) := by
  induction revisions generalizing state with
  | nil => cases late
  | cons revision rest induction =>
      cases answered : client.evidenceOf branch revision state with
      | mk answer after =>
          cases answer with
          | ok evidence =>
              rw [collect_cons_ok answered] at late ⊢
              cases others : (client.collect branch rest after).1 with
              | ok later =>
                  rw [others] at late
                  cases late
              | error failure =>
                  rw [others] at late
                  cases late
                  exact induction others
          | error failure =>
              rw [collect_cons_error answered] at late ⊢
              cases late
              have conclusive :
                  Conclusive (client.evidenceOf branch revision state).1 := by
                rw [answered]
                exact rfl
              obtain ⟨value, found, same⟩ := exists_find?_evidenceOf conclusive
              rw [answered] at found same
              cases value with
              | ready evidence => cases same
              | timedOut lasted =>
                  cases same
                  exact ⟨_, found⟩

/-- Gathering is collecting and then remembering the merge, or the timeout. -/
theorem gather_eq (client : Client) (branch : String) (key : CacheKey)
    (gathered : Evidence) (revisions : List String) (state : State) :
    client.gather branch key gathered revisions state =
      let collected := client.collect branch revisions state
      let answer :=
        collected.1.map fun results => results.foldl Evidence.merge gathered
      (answer, collected.2.keep key answer) := by
  induction revisions generalizing gathered state with
  | nil => rfl
  | cons revision rest induction =>
      cases answered : client.evidenceOf branch revision state with
      | mk answer after =>
          cases answer with
          | ok evidence =>
              rw [gather_cons_ok answered, collect_cons_ok answered, induction]
              cases client.collect branch rest after with
              | mk collected final => cases collected <;> rfl
          | error failure =>
              rw [collect_cons_error answered]
              rcases failure.exists_timeout_or with
                ⟨first, named, elapsed, rfl⟩ | hard
              · obtain ⟨rfl, rfl⟩ :=
                  evidenceOf_timeout (congrArg Prod.fst answered)
                rw [gather_cons_timeout answered]
                rfl
              · rw [gather_cons_failed hard answered]
                simp [Except.map, State.keep, Remembered.ofAnswer?_hard hard]

end Collect

section Window

variable {state : State} (many : 1 < pushes)

include many

/-- What is remembered for a window is justified by its revisions. -/
theorem justifies_of_resolved {revisions : List String} {value : Remembered}
    (resolves :
      PushLog.windowFor (client.environment.pushes state.history) push pushes =
      .ok revisions)
    (kept : Remembered.ofAnswer?
      ((client.collect push.branch revisions
        (state.resolving push pushes)).1.map
        Evidence.merged) = some value) :
    (client.collect push.branch revisions
      (state.resolving push pushes)).2.Justifies
      ⟨push.branch, push.revision, pushes⟩ value := by
  cases collected :
      (client.collect push.branch revisions
        (state.resolving push pushes)).1 with
  | ok results =>
      rw [collected] at kept
      cases kept
      have length := PushLog.length_le_of_windowFor (by omega) resolves
      refine ⟨revisions, results, ?_, PushLog.getLast?_of_windowFor resolves,
        forall₂_find?_collect collected, rfl⟩
      simp only
      omega
  | error failure =>
      rw [collected] at kept
      rcases failure.exists_timeout_or with ⟨first, named, elapsed, rfl⟩ | hard
      · cases kept
        exact exists_timedOut_collect collected
      · rw [Except.map, Remembered.ofAnswer?_hard hard] at kept
        cases kept

variable
  (missing : state.cache.find? ⟨push.branch, push.revision, pushes⟩ = none)

include missing

theorem evidenceFor_of_unresolved {failure : Failure}
    (unresolved :
      PushLog.windowFor (client.environment.pushes state.history) push pushes =
      .error failure) :
    client.evidenceFor push pushes state =
      (.error failure, state.resolving push pushes) := by
  have resolved := client.window_eq push pushes state
  rw [unresolved] at resolved
  rw [evidenceFor_missing many missing, bind_apply_error _ resolved]

theorem evidenceFor_of_resolved {revisions : List String}
    (resolves :
      PushLog.windowFor (client.environment.pushes state.history) push pushes =
      .ok revisions) :
    client.evidenceFor push pushes state =
      let collected :=
        client.collect push.branch revisions (state.resolving push pushes)
      let answer := collected.1.map Evidence.merged
      (answer,
        collected.2.keep ⟨push.branch, push.revision, pushes⟩ answer) := by
  have resolved := client.window_eq push pushes state
  rw [resolves] at resolved
  rw [evidenceFor_missing many missing, bind_apply_ok _ resolved, gather_eq]
  rfl

end Window

/-- What gathering evidence does to a state, look-up by look-up, none of which
harms an invariant. -/
structure Carries (client : Client) (invariant : State → Prop) : Prop where
  single : ∀ branch revision,
    Preserves invariant (client.evidenceOf branch revision)
  queried : ∀ state repository first last, invariant state →
    invariant (state.record (.queried repository first last))
  gathered : ∀ state key value, 1 < key.pushes → state.cache.find? key = none →
    state.Justifies key value → invariant state →
    invariant (state.remember key value)

theorem Carries.resolving {invariant : State → Prop}
    (carries : client.Carries invariant) {state : State} (push : Push)
    (pushes : Nat) (holds : invariant state) :
    invariant (state.resolving push pushes) := by
  unfold State.resolving
  split
  · exact carries.queried _ _ _ _ holds
  · exact holds

theorem Carries.evidenceFor {invariant : State → Prop}
    (carries : client.Carries invariant) (push : Push) (pushes : Nat) :
    Preserves invariant (client.evidenceFor push pushes) := by
  intro state holds
  by_cases many : 1 < pushes
  · cases missing : state.cache.find? ⟨push.branch, push.revision, pushes⟩ with
    | some value =>
        rw [evidenceFor_remembered many missing]
        exact holds
    | none =>
        have resolved := carries.resolving push pushes holds
        cases resolves :
            PushLog.windowFor (client.environment.pushes state.history)
              push pushes with
        | error failure =>
            rw [evidenceFor_of_unresolved many missing resolves]
            exact resolved
        | ok revisions =>
            rw [evidenceFor_of_resolved many missing resolves]
            have collected :=
              collect_preserves invariant (carries.single push.branch)
              revisions _ resolved
            have stillMissing : (client.collect push.branch revisions
                (state.resolving push pushes)).2.cache.find?
                  ⟨push.branch, push.revision, pushes⟩ = none := by
              rw [find?_window_collect many, State.find?_resolving, missing]
            simp only [State.keep]
            split
            · rename_i value kept
              exact carries.gathered _ _ value many stillMissing
                (justifies_of_resolved many resolves kept) collected
            · exact collected
  · rw [evidenceFor_few (Nat.le_of_not_gt many)]
    exact carries.single push.branch push.revision state holds

/-- Evidence and timeouts of a push are remembered for it. -/
theorem find?_evidenceFor {state : State} {value : Remembered}
    (kept : Remembered.ofAnswer? (client.evidenceFor push pushes state).1 =
      some value) :
    (client.evidenceFor push pushes state).2.cache.find?
      ⟨push.branch, push.revision, max pushes 1⟩ = some value := by
  by_cases many : 1 < pushes
  · rw [Nat.max_eq_left (Nat.le_of_lt many)]
    cases missing : state.cache.find? ⟨push.branch, push.revision, pushes⟩ with
    | some held =>
        rw [evidenceFor_remembered many missing] at kept ⊢
        rw [← kept, missing]
        exact (Remembered.ofAnswer?_told push.branch push.revision held).symm
    | none =>
        cases resolves :
            PushLog.windowFor (client.environment.pushes state.history)
              push pushes with
        | error failure =>
            rw [evidenceFor_of_unresolved many missing resolves,
              Remembered.ofAnswer?_hard
                (PushLog.isTimeout_of_windowFor resolves)] at kept
            cases kept
        | ok revisions =>
            rw [evidenceFor_of_resolved many missing resolves] at kept ⊢
            simp only [State.keep, kept, State.find?_remember, if_pos]
  · rw [evidenceFor_few (Nat.le_of_not_gt many),
      Nat.max_eq_right (Nat.le_of_not_gt many)] at *
    rcases evidenceOf_cases client push.branch push.revision state with
      ⟨held, found, same⟩ | ⟨_, ⟨held, _, same⟩ | ⟨error, failed, same⟩⟩
    · rw [same, Remembered.ofAnswer?_told] at kept
      rw [same, found, kept]
    · rw [same, Remembered.ofAnswer?_told] at kept
      rw [same, State.find?_remember, if_pos rfl, kept]
    · rw [same, Remembered.ofAnswer?_hard (Remembered.hard_of_ofOutcome failed)]
          at kept
      cases kept

theorem find?_of_evidenceFor {state after : State}
    {answer : Except Failure Evidence} {value : Remembered}
    (answered : client.evidenceFor push pushes state = (answer, after))
    (kept : Remembered.ofAnswer? answer = some value) :
    after.cache.find? ⟨push.branch, push.revision, max pushes 1⟩ =
      some value := by
  have found := @find?_evidenceFor client push pushes state value
  rw [answered] at found
  exact found kept

theorem exists_find?_evidenceFor {state : State}
    (conclusive : Conclusive (client.evidenceFor push pushes state).1) :
    ∃ value,
      (client.evidenceFor push pushes state).2.cache.find?
        ⟨push.branch, push.revision, max pushes 1⟩ = some value ∧
      ∀ evidence, (client.evidenceFor push pushes state).1 = .ok evidence →
        value = .ready evidence := by
  obtain ⟨value, kept, ready⟩ := Remembered.exists_ofAnswer? conclusive
  exact ⟨value, find?_evidenceFor kept, ready⟩

/-- A push whose outcome is remembered is answered without doing anything. -/
theorem evidenceFor_of_found {state : State} {value : Remembered}
    (found : state.cache.find? ⟨push.branch, push.revision, max pushes 1⟩ =
      some value) :
    client.evidenceFor push pushes state =
      (value.told push.branch push.revision, state) := by
  by_cases many : 1 < pushes
  · rw [Nat.max_eq_left (Nat.le_of_lt many)] at found
    rw [evidenceFor_remembered many found]
  · rw [Nat.max_eq_right (Nat.le_of_not_gt many)] at found
    rw [evidenceFor_few (Nat.le_of_not_gt many), evidenceOf_remembered found]

section Failing

variable {state : State} {failure : Failure}

theorem exists_of_evidenceOf_error
    (failed : (client.evidenceOf branch revision state).1 = .error failure) :
    ∃ error, failure = .evidence error := by
  rcases evidenceOf_cases client branch revision state with
    ⟨held, _, same⟩ | ⟨_, ⟨held, _, same⟩ | ⟨error, _, same⟩⟩
  · rw [same] at failed
    exact Remembered.exists_of_told_error failed
  · rw [same] at failed
    exact Remembered.exists_of_told_error failed
  · rw [same] at failed
    cases failed
    exact ⟨error, rfl⟩

theorem exists_of_collect_error {revisions : List String}
    (failed : (client.collect branch revisions state).1 = .error failure) :
    ∃ error, failure = .evidence error := by
  induction revisions generalizing state with
  | nil => cases failed
  | cons revision rest induction =>
      cases answered : client.evidenceOf branch revision state with
      | mk answer after =>
          cases answer with
          | error reason =>
              rw [collect_cons_error answered] at failed
              cases failed
              exact exists_of_evidenceOf_error (congrArg Prod.fst answered)
          | ok evidence =>
              rw [collect_cons_ok answered] at failed
              cases others : (client.collect branch rest after).1 with
              | ok later =>
                  rw [others] at failed
                  cases failed
              | error reason =>
                  rw [others] at failed
                  cases failed
                  exact induction others

/-- Evidence is missing because of the predictor or because of the push log. -/
theorem exists_of_evidenceFor_error
    (failed : (client.evidenceFor push pushes state).1 = .error failure) :
    (∃ error, failure = .evidence error) ∨
    ∃ error, failure = .pushLog error := by
  by_cases many : 1 < pushes
  · cases missing : state.cache.find? ⟨push.branch, push.revision, pushes⟩ with
    | some held =>
        rw [evidenceFor_remembered many missing] at failed
        exact .inl (Remembered.exists_of_told_error failed)
    | none =>
        cases resolves :
            PushLog.windowFor (client.environment.pushes state.history)
              push pushes with
        | error reason =>
            rw [evidenceFor_of_unresolved many missing resolves] at failed
            cases failed
            exact .inr (PushLog.exists_of_windowFor resolves)
        | ok revisions =>
            rw [evidenceFor_of_resolved many missing resolves] at failed
            cases collected :
                (client.collect push.branch revisions
                  (state.resolving push pushes)).1 with
            | ok results =>
                simp only [collected] at failed
                cases failed
            | error reason =>
                simp only [collected] at failed
                cases failed
                exact .inl (exists_of_collect_error collected)
  · rw [evidenceFor_few (Nat.le_of_not_gt many)] at failed
    exact .inl (exists_of_evidenceOf_error failed)

end Failing

end Client

end TaskSieve
