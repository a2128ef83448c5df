import TaskSieve.Proofs.Evidence.Polling
import TaskSieve.Proofs.Table

/-!
# Evidence as a function of what single revisions answer

The evidence of a window is the merge of what its revisions answer, up to the
first that fails.  When every revision settles on an answer under an invariant,
and the invariant allows what is remembered, a whole window settles as well.
-/

namespace TaskSieve

/-- What a remembered outcome tells about a revision of a branch. -/
def Remembered.told (branch revision : String) (value : Remembered) :
    Except Failure Evidence :=
  (value.answer branch revision).mapError .evidence

@[simp] theorem Remembered.told_ready (branch revision : String)
    (evidence : Evidence) :
    told branch revision (.ready evidence) = .ok evidence := rfl

@[simp] theorem Remembered.told_timedOut (branch revision : String)
    (elapsed : Nat) :
    told branch revision (.timedOut elapsed) =
      .error (.evidence (.timeout branch revision elapsed)) := rfl

/-- What is remembered of the outcome of a poll: evidence or a timeout, but no
other failure. -/
def Remembered.ofOutcome : Except EvidenceError Evidence →
    Except EvidenceError Remembered
  | .ok evidence => .ok (.ready evidence)
  | .error (.timeout _ _ elapsed) => .ok (.timedOut elapsed)
  | .error (.http url status detail) => .error (.http url status detail)
  | .error (.decode url detail) => .error (.decode url detail)

theorem Remembered.told_eq_timeout {branch revision other named : String}
    {elapsed : Nat} {value : Remembered}
    (told : value.told branch revision =
      .error (.evidence (.timeout other named elapsed))) :
    other = branch ∧ named = revision := by
  cases value with
  | ready evidence => cases told
  | timedOut lasted =>
      cases told
      exact ⟨rfl, rfl⟩

theorem Remembered.eq_ok_of_ofOutcome {outcome : Except EvidenceError Evidence}
    {evidence : Evidence} (kept : ofOutcome outcome = .ok (.ready evidence)) :
    outcome = .ok evidence := by
  cases outcome with
  | ok received =>
      cases kept
      rfl
  | error error => cases error <;> cases kept

theorem Remembered.hard_of_ofOutcome {outcome : Except EvidenceError Evidence}
    {error : EvidenceError} (failed : ofOutcome outcome = .error error) :
    (Failure.evidence error).isTimeout = false := by
  cases outcome with
  | ok evidence => cases failed
  | error other =>
      cases other with
      | timeout branch revision elapsed => cases failed
      | http url status detail =>
          cases failed
          rfl
      | decode url detail =>
          cases failed
          rfl

theorem CacheKey.single_ne_window {branch otherBranch revision other : String}
    {pushes : Nat} (many : 1 < pushes) :
    (⟨branch, revision, 1⟩ : CacheKey) ≠ ⟨otherBranch, other, pushes⟩ := by
  intro same
  cases same
  exact Nat.lt_irrefl _ many

/-- The answers of revisions merged in order, on top of what is gathered
already, up to the first failure. -/
def Evidence.gatherAnswers (single : String → Except Failure Evidence)
    (gathered : Evidence) :
    List String → Except Failure Evidence
  | [] => .ok gathered
  | revision :: rest =>
      match single revision with
      | .ok evidence => gatherAnswers single (gathered.merge evidence) rest
      | .error failure => .error failure

namespace PushLog

/-- What a fixed push log tells about the revisions of a range of pushes. -/
def answerFor (log :
      (repository : String) → (first last : Int) → Except PushLogError PushLog)
    (repository : String) (first last : Int) :
    Except Failure (List (Int × String)) :=
  if last < first then .ok []
  else
    match log repository first last with
    | .error error => .error (.pushLog error)
    | .ok entries => (entries.revisions first last).mapError .pushLog

/-- The revisions of a window under a fixed push log. -/
def windowFor (log :
      (repository : String) → (first last : Int) → Except PushLogError PushLog)
    (push : Push) (pushes : Nat) : Except Failure (List String) :=
  match answerFor log push.repository (Client.windowStart push.id pushes)
    (push.id - 1) with
  | .ok earlier => .ok (earlier.map (·.2) ++ [push.revision])
  | .error failure => .error failure

end PushLog

/-- What a window answers when its revisions answer alone and the push log is
fixed. -/
def Evidence.windowAnswer (single : String → Except Failure Evidence)
    (log :
      (repository : String) → (first last : Int) → Except PushLogError PushLog)
    (push : Push) (pushes : Nat) : Except Failure Evidence :=
  match PushLog.windowFor log push pushes with
  | .ok revisions => gatherAnswers single {} revisions
  | .error failure => .error failure

namespace Client

variable {client : Client} {branch revision : String} {push : Push}
  {pushes : Nat}

theorem evidenceOf_remembered {state : State} {value : Remembered}
    (found : state.cache.find? ⟨branch, revision, 1⟩ = some value) :
    client.evidenceOf branch revision state =
      (value.told branch revision, state) := by
  simp [evidenceOf, found, Remembered.told]

theorem evidenceOf_polled {state : State} {value : Remembered}
    (missing : state.cache.find? ⟨branch, revision, 1⟩ = none)
    (kept :
      Remembered.ofOutcome (client.poll branch revision state).1 = .ok value) :
    client.evidenceOf branch revision state =
      (value.told branch revision,
        (client.poll branch revision state).2.remember ⟨branch, revision, 1⟩
          value) := by
  cases polled : client.poll branch revision state with
  | mk outcome after =>
      rw [polled] at kept
      cases outcome with
      | ok evidence =>
          cases kept
          simp [evidenceOf, missing, polled]
      | error error =>
          cases error with
          | timeout first second elapsed =>
              cases kept
              simp [evidenceOf, missing, polled]
          | http url status detail => cases kept
          | decode url detail => cases kept

theorem evidenceOf_failed {state : State} {error : EvidenceError}
    (missing : state.cache.find? ⟨branch, revision, 1⟩ = none)
    (failed : Remembered.ofOutcome (client.poll branch revision state).1 =
      .error error) :
    client.evidenceOf branch revision state =
      (.error (.evidence error), (client.poll branch revision state).2) := by
  cases polled : client.poll branch revision state with
  | mk outcome after =>
      rw [polled] at failed
      cases outcome with
      | ok evidence => cases failed
      | error other =>
          cases other with
          | timeout first second elapsed => cases failed
          | http url status detail =>
              cases failed
              simp [evidenceOf, missing, polled]
          | decode url detail =>
              cases failed
              simp [evidenceOf, missing, polled]

/-- A timeout of a single revision names that revision. -/
theorem evidenceOf_timeout {state : State} {other named : String}
    {elapsed : Nat} (late : (client.evidenceOf branch revision state).1 =
      .error (.evidence (.timeout other named elapsed))) :
    other = branch ∧ named = revision := by
  cases found : state.cache.find? ⟨branch, revision, 1⟩ with
  | some value =>
      rw [evidenceOf_remembered found] at late
      exact Remembered.told_eq_timeout late
  | none =>
      cases outcome :
          Remembered.ofOutcome (client.poll branch revision state).1 with
      | ok value =>
          rw [evidenceOf_polled found outcome] at late
          exact Remembered.told_eq_timeout late
      | error error =>
          have hard := Remembered.hard_of_ofOutcome outcome
          rw [evidenceOf_failed found outcome] at late
          cases late
          cases hard

theorem evidenceFor_few (few : pushes ≤ 1) :
    client.evidenceFor push pushes =
      client.evidenceOf push.branch push.revision := by
  simp [evidenceFor, few]

theorem evidenceFor_remembered (many : 1 < pushes) {state : State}
    {value : Remembered} (found :
      state.cache.find? ⟨push.branch, push.revision, pushes⟩ = some value) :
    client.evidenceFor push pushes state =
      (value.told push.branch push.revision, state) := by
  simp [evidenceFor, Nat.not_le.mpr many, found, Remembered.told]

theorem evidenceFor_missing (many : 1 < pushes) {state : State}
    (missing : state.cache.find? ⟨push.branch, push.revision, pushes⟩ = none) :
    client.evidenceFor push pushes state =
      (client.window push pushes >>= fun revisions =>
        client.gather push.branch ⟨push.branch, push.revision, pushes⟩
          {} revisions) state := by
  simp [evidenceFor, Nat.not_le.mpr many, missing]

/-- What gathering evidence may do to a state, none of which harms an
invariant. -/
structure Keeps (client : Client) (invariant : State → Prop) : Prop where
  asked : ∀ state branch revision, invariant state →
    invariant (client.asked branch revision state)
  waited : ∀ state, invariant state →
    invariant (state.sleep client.polling.interval)
  queried : ∀ state repository first last, invariant state →
    invariant (state.record (.queried repository first last))
  remembered : ∀ state key value, invariant state →
    invariant (state.remember key value)

section Keeping

variable {invariant : State → Prop} (keeps : client.Keeps invariant)

include keeps

theorem evidenceOf_preserves (branch revision : String) :
    Step.Preserves invariant (client.evidenceOf branch revision) := by
  intro state holds
  have polled : invariant (client.poll branch revision state).2 :=
    poll_keeps invariant (fun state => keeps.asked state branch revision)
      keeps.waited state holds
  cases found : state.cache.find? ⟨branch, revision, 1⟩ with
  | some value =>
      rw [evidenceOf_remembered found]
      exact holds
  | none =>
      cases outcome :
          Remembered.ofOutcome (client.poll branch revision state).1 with
      | ok value =>
          rw [evidenceOf_polled found outcome]
          exact keeps.remembered _ _ _ polled
      | error error =>
          rw [evidenceOf_failed found outcome]
          exact polled

end Keeping

section Gather

variable {key : CacheKey} {gathered : Evidence} {rest : List String}
  {state after : State}

theorem gather_cons_ok {evidence : Evidence}
    (answered :
      client.evidenceOf branch revision state = (.ok evidence, after)) :
    client.gather branch key gathered (revision :: rest) state =
      client.gather branch key (gathered.merge evidence) rest after := by
  simp [gather, answered]

theorem gather_cons_timeout {elapsed : Nat}
    (answered : client.evidenceOf branch revision state =
      (.error (.evidence (.timeout branch revision elapsed)), after)) :
    client.gather branch key gathered (revision :: rest) state =
      (.error (.evidence (.timeout branch revision elapsed)),
        after.remember key (.timedOut elapsed)) := by
  simp [gather, answered]

theorem gather_cons_failed {failure : Failure}
    (hard : failure.isTimeout = false) (answered :
      client.evidenceOf branch revision state = (.error failure, after)) :
    client.gather branch key gathered (revision :: rest) state =
      (.error failure, after) := by
  cases failure with
  | evidence error =>
      cases error with
      | timeout first second elapsed => cases hard
      | http url status detail => simp [gather, answered]
      | decode url detail => simp [gather, answered]
  | config error => simp [gather, answered]
  | pushLog error => simp [gather, answered]
  | strategy error => simp [gather, answered]

theorem gather_preserves {invariant : State → Prop}
    (keeps : client.Keeps invariant) (branch : String) (key : CacheKey)
    (gathered : Evidence) (revisions : List String) :
    Step.Preserves invariant (client.gather branch key gathered revisions) := by
  induction revisions generalizing gathered with
  | nil =>
      intro state holds
      exact keeps.remembered state key _ holds
  | cons revision rest induction =>
      intro state holds
      have kept := evidenceOf_preserves keeps branch revision state holds
      cases answered : client.evidenceOf branch revision state with
      | mk answer after =>
          rw [answered] at kept
          cases answer with
          | ok evidence =>
              rw [gather_cons_ok answered]
              exact induction (gathered.merge evidence) after kept
          | error failure =>
              rcases failure.exists_timeout_or with
                ⟨first, named, elapsed, rfl⟩ | hard
              · obtain ⟨rfl, rfl⟩ :=
                  evidenceOf_timeout (congrArg Prod.fst answered)
                rw [gather_cons_timeout answered]
                exact keeps.remembered after key _ kept
              · rw [gather_cons_failed hard answered]
                exact kept

end Gather

theorem resolve_preserves {invariant : State → Prop}
    (keeps : client.Keeps invariant) (repository : String) (first last : Int) :
    Step.Preserves invariant
      (resolve client.environment repository first last) := by
  intro state holds
  have queried := keeps.queried state repository first last holds
  unfold resolve
  by_cases empty : last < first
  · rw [if_pos empty]
    exact holds
  · rw [if_neg empty]
    cases client.environment.pushes state.history repository first last with
    | error error => exact queried
    | ok log => exact queried

theorem evidenceFor_preserves {invariant : State → Prop}
    (keeps : client.Keeps invariant) (push : Push) (pushes : Nat) :
    Step.Preserves invariant (client.evidenceFor push pushes) := by
  by_cases many : 1 < pushes
  · have windowKept : Step.Preserves invariant (client.window push pushes) := by
      apply Step.Preserves.bind (resolve_preserves keeps _ _ _)
      intro earlier
      exact Step.Preserves.pure _
    have gathered : Step.Preserves invariant
        (client.window push pushes >>= fun revisions =>
          client.gather push.branch ⟨push.branch, push.revision, pushes⟩
            {} revisions) := by
      apply windowKept.bind
      intro revisions
      exact gather_preserves keeps push.branch _ _ revisions
    intro state holds
    cases found : state.cache.find? ⟨push.branch, push.revision, pushes⟩ with
    | some value =>
        rw [evidenceFor_remembered many found]
        exact holds
    | none =>
        rw [evidenceFor_missing many found]
        exact gathered state holds
  · rw [evidenceFor_few (Nat.le_of_not_gt many)]
    exact evidenceOf_preserves keeps push.branch push.revision

section Settling

open Step

variable {invariant : State → Prop} {passing : Failure → Prop}
  {single : String → Except Failure Evidence}

/-- A window settles on the merge of what its revisions settle on. -/
theorem gather_settles {key : CacheKey} (sameBranch : key.branch = branch)
    (late : ∀ branch revision elapsed,
      passing (.evidence (.timeout branch revision elapsed)))
    (settled : ∀ revision,
      Settles invariant passing (client.evidenceOf branch revision)
        (single revision))
    (gathered : Evidence) (revisions : List String)
    (remembers : ∀ state value, invariant state →
      SameAnswer (value.told key.branch key.revision)
        (Evidence.gatherAnswers single gathered revisions) →
      invariant (state.remember key value)) :
    Settles invariant passing (client.gather branch key gathered revisions)
      (Evidence.gatherAnswers single gathered revisions) := by
  induction revisions generalizing gathered with
  | nil =>
      constructor
      · intro state holds
        exact .same _
      · intro state holds _
        exact remembers state (.ready gathered) holds (.same _)
  | cons revision rest induction =>
      have settledHead := settled revision
      cases answer : single revision with
      | ok evidence =>
          simp only [Evidence.gatherAnswers, answer] at remembers ⊢
          rw [answer] at settledHead
          apply (induction (gathered.merge evidence) remembers).of_continues
          intro state holds
          obtain ⟨after, answered, kept⟩ := settledHead.result_ok holds
          exact ⟨after, gather_cons_ok answered, kept⟩
      | error failure =>
          simp only [Evidence.gatherAnswers, answer] at remembers ⊢
          rw [answer] at settledHead
          apply Settles.of_results
          intro state holds
          obtain ⟨other, after, failed, agree, kept⟩ :=
            settledHead.result_error holds
          rcases other.exists_timeout_or with
            ⟨first, named, elapsed, rfl⟩ | hard
          · obtain ⟨rfl, rfl⟩ := evidenceOf_timeout (congrArg Prod.fst failed)
            refine ⟨_, _, gather_cons_timeout failed, agree, fun _ => ?_⟩
            have told : SameAnswer
                ((Remembered.timedOut elapsed).told key.branch key.revision)
                (.error (.evidence (.timeout first named elapsed))) := by
              rw [sameBranch]
              exact .timeouts first key.revision named elapsed elapsed
            exact remembers after _ (kept (late _ _ _)) (told.trans agree)
          · exact ⟨_, _, gather_cons_failed hard failed, agree,
              fun passes => kept (passes other rfl)⟩

variable {log :
      (repository : String) → (first last : Int) → Except PushLogError PushLog}

/-- Resolving asks the push log about the pushes of the range, unless there are
none. -/
theorem resolve_eq (environment : Environment) (repository : String)
    (first last : Int) (state : State) :
    resolve environment repository first last state =
      (PushLog.answerFor (environment.pushes state.history) repository
        first last,
        if last < first then
          state else state.record (.queried repository first last)) := by
  by_cases empty : last < first
  · simp [resolve, PushLog.answerFor, empty]
  · cases answered : environment.pushes state.history repository first last with
    | error error => simp [resolve, PushLog.answerFor, empty, answered]
    | ok entries => simp [resolve, PushLog.answerFor, empty, answered]

theorem resolve_fixed (fixed : client.environment.HasFixedLog log)
    (repository : String) (first last : Int) (state : State) :
    resolve client.environment repository first last state =
      (PushLog.answerFor log repository first last,
        if last < first then
          state else state.record (.queried repository first last)) := by
  rw [resolve_eq, fixed state.history]

theorem window_settles (fixed : client.environment.HasFixedLog log)
    (queried : ∀ state repository first last, invariant state →
      invariant (state.record (.queried repository first last)))
    (push : Push) (pushes : Nat) :
    Settles invariant passing (client.window push pushes)
      (PushLog.windowFor log push pushes) := by
  have settledLog : Settles invariant passing
      (resolve client.environment push.repository (windowStart push.id pushes)
        (push.id - 1))
      (PushLog.answerFor log push.repository (windowStart push.id pushes)
        (push.id - 1)) := by
    apply Settles.of_results
    intro state holds
    refine ⟨_, _, resolve_fixed fixed _ _ _ state, .same _, fun _ => ?_⟩
    by_cases empty : push.id - 1 < windowStart push.id pushes
    · simpa [empty] using holds
    · simpa [empty] using queried state _ _ _ holds
  unfold window PushLog.windowFor
  cases answered :
      PushLog.answerFor log push.repository (windowStart push.id pushes)
      (push.id - 1) with
  | ok earlier =>
      rw [answered] at settledLog
      exact settledLog.bind_ok (Settles.pure _)
  | error failure =>
      rw [answered] at settledLog
      exact settledLog.bind_error

/-- Evidence for a window that is remembered in every state with the
invariant. -/
theorem evidenceFor_settles_of_remembered (many : 1 < pushes)
    {answer : Except Failure Evidence}
    (remembered : ∀ state, invariant state → ∃ value,
      state.cache.find? ⟨push.branch, push.revision, pushes⟩ = some value ∧
      SameAnswer (value.told push.branch push.revision) answer) :
    Settles invariant passing (client.evidenceFor push pushes) answer := by
  apply Settles.of_results
  intro state holds
  obtain ⟨value, found, agree⟩ := remembered state holds
  exact ⟨_, state, evidenceFor_remembered many found, agree, fun _ => holds⟩

/-- Evidence for a window settles on the merge of what its revisions settle on,
as long as that is also what is remembered for the window. -/
theorem evidenceFor_settles (many : 1 < pushes)
    (late : ∀ branch revision elapsed,
      passing (.evidence (.timeout branch revision elapsed)))
    (fixed : client.environment.HasFixedLog log)
    (queried : ∀ state repository first last, invariant state →
      invariant (state.record (.queried repository first last)))
    (settled : ∀ revision,
      Settles invariant passing (client.evidenceOf push.branch revision)
        (single revision))
    (found : ∀ state value, invariant state →
      state.cache.find? ⟨push.branch, push.revision, pushes⟩ = some value →
      SameAnswer (value.told push.branch push.revision)
        (Evidence.windowAnswer single log push pushes))
    (remembers : ∀ state value, invariant state →
      SameAnswer (value.told push.branch push.revision)
        (Evidence.windowAnswer single log push pushes) →
      invariant (state.remember ⟨push.branch, push.revision, pushes⟩ value)) :
    Settles invariant passing (client.evidenceFor push pushes)
      (Evidence.windowAnswer single log push pushes) := by
  have settledWindow : Settles invariant passing (client.window push pushes)
      (PushLog.windowFor log push pushes) :=
    window_settles fixed queried push pushes
  have gathered : Settles invariant passing
      (client.window push pushes >>= fun revisions =>
        client.gather push.branch ⟨push.branch, push.revision, pushes⟩
          {} revisions)
      (Evidence.windowAnswer single log push pushes) := by
    unfold Evidence.windowAnswer at remembers ⊢
    have sameBranch : CacheKey.branch ⟨push.branch, push.revision, pushes⟩ =
        push.branch := rfl
    cases resolved : PushLog.windowFor log push pushes with
    | ok revisions =>
        rw [resolved] at settledWindow remembers
        exact settledWindow.bind_ok
          (gather_settles sameBranch late settled {} revisions remembers)
    | error failure =>
        rw [resolved] at settledWindow
        exact settledWindow.bind_error
  apply Settles.of_results
  intro state holds
  cases present : state.cache.find? ⟨push.branch, push.revision, pushes⟩ with
  | some value =>
      exact ⟨_, state, evidenceFor_remembered many present,
        found state value holds present, fun _ => holds⟩
  | none =>
      exact ⟨_, _, evidenceFor_missing many present,
        gathered.agrees state holds, gathered.keeps state holds⟩

end Settling

end Client

end TaskSieve
