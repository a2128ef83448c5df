import TaskSieve.Proofs.Evidence.Calls
import TaskSieve.Proofs.Evidence.Gathering

/-!
# Remembered evidence is what would be gathered anew

The predictor answers the same question always alike and the push log is fixed.
Then every remembered outcome is, up to the details of a timeout, the answer
that a client without memory would find, and it stays so through every
sequence of calls and clearings.  Windows that overlap share the outcomes of
their revisions, so revisions and windows are followed by one invariant.
-/

namespace TaskSieve

open Step

/-- What a revision answers when the predictor always replies alike.  How long a
timeout takes is left open. -/
def Evidence.revisionAnswer
    (replies : (branch revision : String) → Except EvidenceError Reply)
    (branch revision : String) : Except Failure Evidence :=
  match replies branch revision with
  | .ok (.ready evidence) => .ok evidence
  | .ok .pending => .error (.evidence (.timeout branch revision 0))
  | .error (.timeout _ _ elapsed) =>
      .error (.evidence (.timeout branch revision elapsed))
  | .error error => .error (.evidence error)

/-- Pushes with the same branch and revision have the same place in the same
repository. -/
def Operation.Consistent (operations : List Operation) : Prop :=
  ∀ first ∈ operations.filterMap Operation.push?,
    ∀ second ∈ operations.filterMap Operation.push?,
    first.branch = second.branch → first.revision = second.revision →
    first.id = second.id ∧ first.repository = second.repository

/-- Everything remembered is what single revisions answer, or what they make of
a window of one of the given pushes. -/
structure State.Faithful
    (single : (branch revision : String) → Except Failure Evidence) (log :
      (repository : String) → (first last : Int) → Except PushLogError PushLog)
    (asked : List Push) (state : State) : Prop where
  revision : ∀ branch revision value,
    state.cache.find? ⟨branch, revision, 1⟩ = some value →
    SameAnswer (value.told branch revision) (single branch revision)
  window : ∀ push ∈ asked, ∀ pushes, 1 < pushes → ∀ value,
    state.cache.find? ⟨push.branch, push.revision, pushes⟩ = some value →
    SameAnswer (value.told push.branch push.revision)
      (Evidence.windowAnswer (single push.branch) log push pushes)

namespace State.Faithful

variable {single : (branch revision : String) → Except Failure Evidence}
  {log :
    (repository : String) → (first last : Int) → Except PushLogError PushLog}
  {asked : List Push} {state : State}

theorem of_empty (empty : state.cache = ∅) :
    state.Faithful single log asked := by
  constructor
  · intro branch revision value found
    rw [empty] at found
    cases found
  · intro push member pushes many value found
    rw [empty] at found
    cases found

/-- Only what is remembered matters. -/
theorem of_cache_eq {after : State} (faithful : state.Faithful single log asked)
    (same : after.cache = state.cache) : after.Faithful single log asked := by
  constructor
  · intro branch revision value found
    rw [same] at found
    exact faithful.revision branch revision value found
  · intro push member pushes many value found
    rw [same] at found
    exact faithful.window push member pushes many value found

theorem remember_revision {branch revision : String} {value : Remembered}
    (faithful : state.Faithful single log asked)
    (agree : SameAnswer (value.told branch revision) (single branch revision)) :
    (state.remember ⟨branch, revision, 1⟩ value).Faithful single log asked := by
  constructor
  · intro otherBranch other held found
    simp only [State.remember, Table.find?_insert] at found
    split at found
    · rename_i same
      cases same
      cases found
      exact agree
    · exact faithful.revision otherBranch other held found
  · intro push member pushes many held found
    rw [State.remember,
      Table.find?_insert_of_ne _ _ (CacheKey.single_ne_window many).symm]
        at found
    exact faithful.window push member pushes many held found

/-- A window may be remembered for one push when all pushes that share its key
share its place. -/
theorem remember_window {push : Push} {pushes : Nat} {value : Remembered}
    (many : 1 < pushes)
    (consistent : ∀ other ∈ asked, other.branch = push.branch →
      other.revision = push.revision →
      other.id = push.id ∧ other.repository = push.repository)
    (faithful : state.Faithful single log asked)
    (agree : SameAnswer (value.told push.branch push.revision)
      (Evidence.windowAnswer (single push.branch) log push pushes)) :
    (state.remember ⟨push.branch, push.revision, pushes⟩ value).Faithful
      single log asked := by
  constructor
  · intro branch revision held found
    rw [State.remember,
      Table.find?_insert_of_ne _ _ (CacheKey.single_ne_window many)] at found
    exact faithful.revision branch revision held found
  · intro other member otherPushes otherMany held found
    simp only [State.remember, Table.find?_insert, CacheKey.mk.injEq] at found
    split at found
    · rename_i same
      obtain ⟨sameBranch, sameRevision, samePushes⟩ := same
      obtain ⟨sameId, sameRepository⟩ :=
        consistent other member sameBranch sameRevision
      cases found
      have sameWindow :
          Evidence.windowAnswer (single other.branch) log other otherPushes =
            Evidence.windowAnswer (single push.branch) log push pushes := by
        simp only [Evidence.windowAnswer, PushLog.windowFor, sameBranch,
          sameRevision, sameId, sameRepository, samePushes]
      rw [sameWindow, sameBranch, sameRevision]
      exact agree
    · exact faithful.window other member otherPushes otherMany held found

end State.Faithful

namespace Client

variable {client : Client} {branch revision : String}
  {replies : (branch revision : String) → Except EvidenceError Reply}
  {log :
    (repository : String) → (first last : Int) → Except PushLogError PushLog}
  {asked : List Push}

theorem ofOutcome_poll_always
    (constant : client.environment.AnswersAlways replies)
    (branch revision : String) (state : State) :
    (∃ value, Remembered.ofOutcome (client.poll branch revision state).1 =
      .ok value ∧
      SameAnswer (value.told branch revision)
        (Evidence.revisionAnswer replies branch revision)) ∨
    ∃ error, Remembered.ofOutcome (client.poll branch revision state).1 =
      .error error ∧
      Evidence.revisionAnswer replies branch revision =
        .error (.evidence error) := by
  cases reply : replies branch revision with
  | ok answer =>
      cases answer with
      | ready evidence =>
          rw [poll_always_ready constant reply]
          refine .inl ⟨.ready evidence, rfl, ?_⟩
          simp only [Evidence.revisionAnswer, reply]
          exact .same _
      | pending =>
          obtain ⟨elapsed, late⟩ :=
            pollFrom_always_pending constant reply state.now state
          rw [poll, late]
          refine .inl ⟨.timedOut elapsed, rfl, ?_⟩
          simp only [Evidence.revisionAnswer, reply]
          exact .timeouts branch revision revision elapsed 0
  | error error =>
      rw [poll_always_failed constant reply]
      cases error with
      | timeout first named elapsed =>
          refine .inl ⟨.timedOut elapsed, rfl, ?_⟩
          simp only [Evidence.revisionAnswer, reply]
          exact .same _
      | http url status detail =>
          exact .inr ⟨.http url status detail,
            rfl, by simp only [Evidence.revisionAnswer, reply]⟩
      | decode url detail =>
          exact .inr ⟨.decode url detail,
            rfl, by simp only [Evidence.revisionAnswer, reply]⟩

theorem evidenceOf_settles_faithful
    (constant : client.environment.AnswersAlways replies)
    (branch revision : String) :
    Settles (State.Faithful (Evidence.revisionAnswer replies) log asked)
      (fun _ => True)
      (client.evidenceOf branch revision)
        (Evidence.revisionAnswer replies branch revision) := by
  apply Settles.of_results
  intro state faithful
  have polled : (client.poll branch revision state).2.Faithful
      (Evidence.revisionAnswer replies) log asked :=
    faithful.of_cache_eq (poll_cache client branch revision state)
  cases present : state.cache.find? ⟨branch, revision, 1⟩ with
  | some value =>
      exact ⟨_, _, evidenceOf_remembered present,
        faithful.revision branch revision value present, fun _ => faithful⟩
  | none =>
      rcases ofOutcome_poll_always constant branch revision state with
        ⟨value, kept, agree⟩ | ⟨error, failed, same⟩
      · exact ⟨_, _, evidenceOf_polled present kept, agree,
          fun _ => polled.remember_revision agree⟩
      · rw [same]
        exact ⟨_, _, evidenceOf_failed present failed, .same _, fun _ => polled⟩

theorem evidenceFor_settles_faithful
    (constant : client.environment.AnswersAlways replies)
    (fixed : client.environment.HasFixedLog log) {push : Push}
    (member : push ∈ asked) (consistent : ∀ other ∈ asked,
      other.branch = push.branch → other.revision = push.revision →
      other.id = push.id ∧ other.repository = push.repository)
    (pushes : Nat) :
    ∃ answer,
      Settles (State.Faithful (Evidence.revisionAnswer replies) log asked)
      (fun _ => True) (client.evidenceFor push pushes) answer := by
  by_cases many : 1 < pushes
  · refine ⟨_, evidenceFor_settles many (fun _ _ _ => trivial) fixed ?_
      (evidenceOf_settles_faithful constant push.branch) ?_ ?_⟩
    · intro state repository first last faithful
      exact faithful.of_cache_eq rfl
    · intro state value faithful found
      exact faithful.window push member pushes many value found
    · intro state value faithful agree
      exact faithful.remember_window many consistent agree
  · rw [evidenceFor_few (Nat.le_of_not_gt many)]
    exact ⟨_, evidenceOf_settles_faithful constant push.branch push.revision⟩

end Client

namespace Operation

variable {client : Client}
  {replies : (branch revision : String) → Except EvidenceError Reply}
  {log :
    (repository : String) → (first last : Int) → Except PushLogError PushLog}
  {operations : List Operation}

theorem ask_settles_faithful
    (constant : client.environment.AnswersAlways replies)
    (fixed : client.environment.HasFixedLog log)
    (consistent : Consistent operations) (call : Call)
    (member : .ask call ∈ operations) :
    ∃ answer, Settles
      (State.Faithful (Evidence.revisionAnswer replies) log
        (operations.filterMap push?))
      (fun _ => True) (call.ask client) answer := by
  cases call with
  | single branch revision =>
      exact ⟨_, Client.evidenceOf_settles_faithful constant branch revision⟩
  | window push pushes =>
      have asked : push ∈ operations.filterMap push? :=
        List.mem_filterMap.mpr ⟨.ask (.window push pushes), member, rfl⟩
      exact Client.evidenceFor_settles_faithful constant fixed asked
        (fun other otherAsked => consistent other otherAsked push asked) pushes

/-- Faithfulness is kept by every operation of a consistent sequence. -/
theorem run_faithful (constant : client.environment.AnswersAlways replies)
    (fixed : client.environment.HasFixedLog log)
    (consistent : Consistent operations) (earlier : List Operation)
    (among : ∀ operation ∈ earlier, operation ∈ operations) {state : State}
    (empty : state.cache = ∅) :
    (run client earlier state).Faithful (Evidence.revisionAnswer replies) log
      (operations.filterMap push?) := by
  apply run_invariant earlier _ state (State.Faithful.of_empty empty)
  intro operation member before faithful
  cases operation with
  | ask call =>
      obtain ⟨answer, settled⟩ :=
        ask_settles_faithful constant fixed consistent call (among _ member)
      exact settled.keeps before faithful (fun _ _ => trivial)
  | clear => exact State.Faithful.of_empty rfl

/-- Memory is transparent: at every place of a sequence of calls and clearings
that starts without memory, a call answers what it would answer to a client
without memory, at whatever time. -/
theorem ask_run_sameAnswer (constant : client.environment.AnswersAlways replies)
    (fixed : client.environment.HasFixedLog log)
    (earlier later : List Operation) (call : Call)
    (consistent : Consistent (earlier ++ .ask call :: later))
    (state fresh : State) (empty : state.cache = ∅)
    (freshEmpty : fresh.cache = ∅) :
    SameAnswer (call.ask client (run client earlier state)).1
      (call.ask client fresh).1 := by
  obtain ⟨answer, settled⟩ :=
    ask_settles_faithful constant fixed consistent call (by simp)
  have remembered := run_faithful constant fixed consistent earlier
    (fun operation member => by simp [member]) empty
  have afresh := settled.agrees fresh (State.Faithful.of_empty freshEmpty)
  exact (settled.agrees _ remembered).trans afresh.symm

/-- Two pushes in the push log, of which the predictor is only ready for the
first. -/
def halfReadyClient : Client where
  environment := {
    fetch := fun _ _ revision =>
      (.ok (if revision = "first"
      then .ready { known := Names.ofList ["task"] } else .pending), 1)
    pushes :=
      fun _ _ _ _ => .ok (Table.ofList [(1, ⟨["first"]⟩), (2, ⟨["second"]⟩)]) }
  polling := { interval := 2, timeout := 5, positive := Nat.two_pos }

/-- A window that was asked for before, after one of its revisions and with a
clearing in between, answers as without memory. -/
theorem ask_run_sameAnswer_of_window :
    let push : Push := {
      branch := "autoland", repository := "repo", revision := "second",
      project := "autoland", id := 2 }
    SameAnswer
      ((Call.window push 2).ask halfReadyClient
        (run halfReadyClient
          [.ask (.window push 2), .clear, .ask (.single "autoland" "first"),
            .ask (.window push 2)] {})).1
      ((Call.window push 2).ask halfReadyClient {}).1 := by
  intro push
  have constant : halfReadyClient.environment.AnswersAlways fun _ revision =>
      .ok (if revision = "first" then
          .ready { known := Names.ofList ["task"] } else .pending) :=
    fun _ _ _ => rfl
  have fixed : halfReadyClient.environment.HasFixedLog fun _ _ _ =>
      .ok (Table.ofList [(1, ⟨["first"]⟩), (2, ⟨["second"]⟩)]) :=
    fun _ => rfl
  apply ask_run_sameAnswer constant fixed _ []
  · simp [Consistent, push?]
  · rfl
  · rfl

end Operation

end TaskSieve
