import TaskSieve.Proofs.Evidence.Resuming
import TaskSieve.Proofs.Evidence.Retention

/-!
# Timeouts that are told again

Of a timeout it is remembered how long the predictor was waited for, but not
for which revision of a window.  So a window that has timed out answers later
on with the same branch and the same time, but in the name of its own revision,
even if the predictor was never asked about that one.
-/

namespace TaskSieve.Client

variable {client : Client} {push : Push} {pushes : Nat} {state : State}
  {branch revision : String} {elapsed : Nat}

/-- A timeout names the branch of the push, and for a single push its revision
too. -/
theorem eq_of_evidenceFor_timeout
    (late : (client.evidenceFor push pushes state).1 =
      .error (.evidence (.timeout branch revision elapsed))) :
    branch = push.branch ∧ (pushes ≤ 1 → revision = push.revision) := by
  by_cases many : 1 < pushes
  · refine ⟨?_, fun few => absurd few (Nat.not_le_of_gt many)⟩
    cases missing : state.cache.find? ⟨push.branch, push.revision, pushes⟩ with
    | some value =>
        rw [evidenceFor_remembered many missing] at late
        exact (Remembered.told_eq_timeout late).1
    | none =>
        obtain ⟨front, failing, back, between, after, failsAt, _⟩ :=
          exists_failsAt many missing late
        exact (failsAt.timedOut rfl).1
  · rw [evidenceFor_few (Nat.le_of_not_gt many)] at late
    obtain ⟨sameBranch, sameRevision⟩ := evidenceOf_timeout late
    exact ⟨sameBranch, fun _ => sameRevision⟩

/-- As long as what is remembered stays, a timeout is told again without doing
anything, with the revision of the push. -/
theorem evidenceFor_after_timeout
    (late : (client.evidenceFor push pushes state).1 =
      .error (.evidence (.timeout branch revision elapsed))) {later : State}
    (stays : ∀ key value,
      (client.evidenceFor push pushes state).2.cache.find? key = some value →
      later.cache.find? key = some value) :
    client.evidenceFor push pushes later =
      (.error (.evidence (.timeout push.branch push.revision elapsed)),
        later) := by
  have kept : Remembered.ofAnswer? (client.evidenceFor push pushes state).1 =
      some (.timedOut elapsed) := by
    rw [late]
    rfl
  rw [evidenceFor_of_found (stays _ _ (find?_evidenceFor kept)),
    Remembered.told_timedOut]

/-- After a timeout, and until the cache is cleared, the same call answers with
a timeout on the same branch and after the same time, without doing anything.
It names the revision of the push, so it is the timeout that was told at first
exactly if that was about this revision, as it always is for a single push. -/
theorem evidenceFor_tells_timeout_again (client : Client) (push : Push)
    (pushes : Nat) (state : State)
    (late : (client.evidenceFor push pushes state).1 =
      .error (.evidence (.timeout branch revision elapsed)))
    {deeds : List Deed} (tame : ∀ deed ∈ deeds, deed.IsTame)
    (keeps : ∀ deed ∈ deeds, deed.clears = false) :
    let later :=
      Deed.run client.environment deeds (client.evidenceFor push pushes state).2
    client.evidenceFor push pushes later =
        (.error (.evidence (.timeout branch push.revision elapsed)), later) ∧
      ((client.evidenceFor push pushes later).1 =
          .error (.evidence (.timeout branch revision elapsed)) ↔
            revision = push.revision) ∧
      (pushes ≤ 1 → revision = push.revision) := by
  intro later
  obtain ⟨rfl, single⟩ := eq_of_evidenceFor_timeout late
  have again : client.evidenceFor push pushes later =
      (.error (.evidence (.timeout push.branch push.revision elapsed)),
      later) :=
    evidenceFor_after_timeout late
      (Deed.run_leads client.environment tame keeps _).stays
  refine ⟨again, ?_, single⟩
  rw [again]
  constructor
  · intro same
    cases same
    rfl
  · rintro rfl
    rfl

/-- A predictor that is never ready, which is asked once only, and a push log of
one push. -/
def unreadyClient : Client where
  environment := {
    fetch := fun _ _ _ => (.ok .pending, 0)
    pushes := fun _ _ _ _ => .ok (Table.ofList [(1, ⟨["base"]⟩)]) }
  polling := { interval := 2, timeout := 1, positive := Nat.two_pos }

/-- The push after that one. -/
def headPush : Push where
  branch := "autoland"
  repository := "repo"
  revision := "head"
  project := "autoland"
  id := 2

theorem evidenceFor_headPush :
    (unreadyClient.evidenceFor headPush 2 {}).1 =
      .error (.evidence (.timeout "autoland" "base" 0)) := by
  have resolves :
      PushLog.windowFor (unreadyClient.environment.pushes []) headPush 2 =
      .ok ["base", "head"] := rfl
  have unknown :
      (State.resolving {} headPush 2).cache.find? ⟨headPush.branch, "base", 1⟩ =
      none := rfl
  have kept : Remembered.ofOutcome
      (unreadyClient.poll headPush.branch "base"
        (State.resolving {} headPush 2)).1 =
        .ok (.timedOut 0) := by
    rw [poll, pollFrom_pending _ rfl]
    rfl
  have missing :
      ({} : State).cache.find? ⟨headPush.branch, headPush.revision, 2⟩ = none :=
    rfl
  have gathered := evidenceFor_of_resolved Nat.one_lt_two missing resolves
  simp only [collect_cons_error (evidenceOf_polled unknown kept)] at gathered
  exact congrArg Prod.fst gathered

/-- The timeout of the earlier push is told as one of the push itself, which may
have been asked about in between. -/
theorem evidenceFor_tells_timeout_again_of_base :
    let deeds : List Deed :=
      [.use unreadyClient.polling (.ask (.single "autoland" "head"))]
    let first := unreadyClient.evidenceFor headPush 2 {}
    first.1 = .error (.evidence (.timeout "autoland" "base" 0)) ∧
      (∀ deed ∈ deeds, deed.IsTame) ∧ (∀ deed ∈ deeds, deed.clears = false) ∧
      (unreadyClient.evidenceFor headPush 2
        (Deed.run unreadyClient.environment deeds first.2)).1 =
          .error (.evidence (.timeout "autoland" "head" 0)) := by
  intro deeds first
  have tame : ∀ deed ∈ deeds, deed.IsTame := by simp [deeds, Deed.IsTame]
  have keeps : ∀ deed ∈ deeds, deed.clears = false := by
    simp [deeds, Deed.clears]
  obtain ⟨again, _⟩ :=
    evidenceFor_tells_timeout_again unreadyClient headPush 2 {}
      evidenceFor_headPush tame keeps
  exact ⟨evidenceFor_headPush, tame, keeps, congrArg Prod.fst again⟩

/-- A window that timed out because of an earlier push is told again as if its
own push had. -/
theorem evidenceFor_renames_timeout :
    let first := unreadyClient.evidenceFor headPush 2 {}
    let second := unreadyClient.evidenceFor headPush 2 first.2
    first.1 = .error (.evidence (.timeout "autoland" "base" 0)) ∧
      second.1 ≠ .error (.evidence (.timeout "autoland" "base" 0)) := by
  intro first second
  have again :
      second = (.error (.evidence (.timeout "autoland" "head" 0)), first.2) :=
    evidenceFor_after_timeout evidenceFor_headPush fun _ _ found => found
  refine ⟨evidenceFor_headPush, ?_⟩
  rw [again]
  decide

end TaskSieve.Client
