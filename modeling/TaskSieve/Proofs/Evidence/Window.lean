import TaskSieve.Proofs.Evidence.Collecting

/-!
# The evidence of a window of pushes

Evidence for a window that is not remembered comes from the push itself and
from the pushes before it, no further back than the first push of all.  The
push log is asked once for those before it, if there are any, and each of them
must have a last changeset.  The evidence of all these revisions is merged name
by name.
-/

namespace TaskSieve.Client

variable {client : Client} {push : Push} {pushes : Nat} {state : State}

/-- What gathering a window does after the push log was asked. -/
theorem evidenceFor_history (many : 1 < pushes)
    (missing : state.cache.find? ⟨push.branch, push.revision, pushes⟩ = none) :
    ∃ later, (client.evidenceFor push pushes state).2.history =
        later ++ (state.resolving push pushes).history ∧
      ∀ event ∈ later, (∃ revision, event = .fetched push.branch revision) ∨
        ∃ duration, event = .slept duration := by
  cases resolves : PushLog.windowFor (client.environment.pushes state.history)
    push pushes with
  | error failure =>
      rw [evidenceFor_of_unresolved many missing resolves]
      exact ⟨[], rfl, by simp⟩
  | ok revisions =>
      rw [evidenceFor_of_resolved many missing resolves]
      simp only [State.keep_history]
      exact client.collect_history push.branch revisions
        (state.resolving push pushes)

section Start

variable {first : Int} (start : windowStart push.id pushes = first)
  (begins : first < push.id ↔ 2 ≤ push.id)

include start begins

theorem resolving_eq (state : State) :
    state.resolving push pushes =
      if 2 ≤ push.id then
        state.record (.queried push.repository first (push.id - 1))
      else state := by
  subst start
  exact if_congr begins rfl rfl

/-- The revisions of a window whose earlier pushes all have a last changeset. -/
theorem windowFor_of_reply {log : PushLog}
    (reply : (if 2 ≤ push.id then
        client.environment.pushes state.history push.repository first
          (push.id - 1)
      else .ok ∅) = .ok log)
    (tips : ∀ id, first ≤ id → id ≤ push.id - 1 → log.tip? id ≠ none) :
    PushLog.windowFor (client.environment.pushes state.history) push pushes =
      .ok ((Int.range first push.id).filterMap log.tip? ++
        [push.revision]) := by
  subst start
  by_cases later : 2 ≤ push.id
  · rw [if_pos later] at reply
    exact PushLog.windowFor_of_tips (begins.mpr later) reply
      fun id above below => tips id above (by omega)
  · have alone : push.id ≤ windowStart push.id pushes :=
      Int.not_lt.mp fun asks => later (begins.mp asks)
    rw [PushLog.windowFor_of_alone alone, PushLog.range_eq_nil alone]
    rfl

/-- The first earlier push without a last changeset is what a window fails
with. -/
theorem evidenceFor_of_shortfall (many : 1 < pushes)
    (missing : state.cache.find? ⟨push.branch, push.revision, pushes⟩ = none)
    (later : 2 ≤ push.id) {log : PushLog}
    (listed : client.environment.pushes state.history push.repository first
      (push.id - 1) = .ok log)
    {id : Int} (above : first ≤ id) (below : id ≤ push.id - 1)
    (absent : log.tip? id = none)
    (least : ∀ smaller, first ≤ smaller → smaller < id →
      log.tip? smaller ≠ none) :
    client.evidenceFor push pushes state =
      (.error (.pushLog
        (if log.contains id then .emptyPush id
          else .missingPush id first (push.id - 1))),
        state.resolving push pushes) := by
  have shortfall : log.shortfall first (push.id - 1) id =
      if log.contains id then .emptyPush id
        else .missingPush id first (push.id - 1) := by
    unfold PushLog.shortfall Table.contains
    cases log.find? id <;> rfl
  subst start
  rw [← shortfall]
  exact evidenceFor_of_unresolved many missing
    (PushLog.windowFor_of_shortfall (begins.mpr later) listed above (by omega)
      absent least)

/-- Evidence for a window whose earlier pushes all have a last changeset is the
evidence of these changesets and of the push itself, merged, or the failure of
one of them. -/
theorem evidenceFor_of_tips (many : 1 < pushes)
    (missing : state.cache.find? ⟨push.branch, push.revision, pushes⟩ = none)
    {log : PushLog}
    (reply : (if 2 ≤ push.id then
        client.environment.pushes state.history push.repository first
          (push.id - 1)
      else .ok ∅) = .ok log)
    (tips : ∀ id, first ≤ id → id ≤ push.id - 1 → log.tip? id ≠ none) :
    let revisions :=
      (Int.range first push.id).filterMap log.tip? ++ [push.revision]
    let collected :=
      client.collect push.branch revisions (state.resolving push pushes)
    let result := client.evidenceFor push pushes state
    (revisions.length : Int) = max (push.id - first) 0 + 1 ∧
      result.2.history = collected.2.history ∧
      (∀ failure, collected.1 = .error failure →
        result.1 = .error failure) ∧
      ∀ results, collected.1 = .ok results →
        ∃ summary, result.1 = .ok summary ∧ summary.Summarizes results := by
  intro revisions collected result
  have resolves := windowFor_of_reply start begins reply tips
  have gathered : result =
      (collected.1.map Evidence.merged,
        collected.2.keep ⟨push.branch, push.revision, pushes⟩
          (collected.1.map Evidence.merged)) :=
    evidenceFor_of_resolved many missing resolves
  have answer : result.1 = collected.1.map Evidence.merged := by
    rw [gathered]
  have length := PushLog.length_of_windowFor resolves
  rw [start] at length
  refine ⟨length, ?_, ?_, ?_⟩
  · rw [gathered]
    exact State.keep_history _ _ _
  · intro failure failed
    rw [answer, failed]
    rfl
  · intro results ready
    rw [ready] at answer
    exact ⟨Evidence.merged results, answer,
      Evidence.merged_summarizes results⟩

end Start

/-- Evidence for a window that is not remembered and whose pushes a signed word
counts.  The push log is asked once, for the pushes of the window before the
push itself, when there are any.  Its failure is the answer, and so is the
first of these pushes that it does not list or that is empty.  Otherwise the
last changesets of these pushes and then the push itself are looked up in
order, as many as the window has pushes; when all of them are ready, each name
has the largest of its confidences, and a task is known that any of them
knows. -/
theorem evidenceFor_window (client : Client) (push : Push) {pushes : Nat}
    (many : 2 ≤ pushes)
    (fits : -(Word.signedLimit : Int) ≤ push.id - pushes + 1) {state : State}
    (missing :
      state.cache.find? ⟨push.branch, push.revision, pushes⟩ = none) :
    let first : Int := max (push.id - pushes + 1) 1
    let last : Int := push.id - 1
    let asked : State :=
      if 2 ≤ push.id then
        state.record (.queried push.repository first last)
      else state
    let reply : Except PushLogError PushLog :=
      if 2 ≤ push.id then
        client.environment.pushes state.history push.repository first last
      else .ok ∅
    let result := client.evidenceFor push pushes state
    (∃ later, result.2.history = later ++ asked.history ∧
      ∀ event ∈ later,
        (∃ revision, event = .fetched push.branch revision) ∨
          ∃ duration, event = .slept duration) ∧
    (∀ error, reply = .error error →
      result = (.error (.pushLog error), asked)) ∧
    ∀ log, reply = .ok log →
      (∀ id, first ≤ id → id ≤ last → log.tip? id = none →
        (∀ smaller, first ≤ smaller → smaller < id →
          log.tip? smaller ≠ none) →
        result = (.error (.pushLog
          (if log.contains id then .emptyPush id
            else .missingPush id first last)), asked)) ∧
      ((∀ id, first ≤ id → id ≤ last → log.tip? id ≠ none) →
        let revisions :=
          (Int.range first push.id).filterMap log.tip? ++ [push.revision]
        let collected := client.collect push.branch revisions asked
        (revisions.length : Int) = min (pushes : Int) (max push.id 1) ∧
        result.2.history = collected.2.history ∧
        (∀ failure, collected.1 = .error failure →
          result.1 = .error failure) ∧
        ∀ results, collected.1 = .ok results →
          ∃ summary, result.1 = .ok summary ∧
            summary.Summarizes results) := by
  intro first last asked reply result
  have start : windowStart push.id pushes = first := windowStart_of_fits fits
  have begins : first < push.id ↔ 2 ≤ push.id :=
    start ▸ windowStart_lt_iff many fits
  have asking : state.resolving push pushes = asked :=
    resolving_eq start begins state
  rw [← asking]
  refine ⟨evidenceFor_history many missing, ?_, ?_⟩
  · intro error failed
    have later : 2 ≤ push.id := by
      by_contra few
      simp [reply, few] at failed
    have asks : reply =
        client.environment.pushes state.history push.repository
          (windowStart push.id pushes) last := by
      rw [start]
      exact if_pos later
    exact evidenceFor_of_unresolved many missing
      (PushLog.windowFor_of_error (start ▸ begins.mpr later) (asks ▸ failed))
  · intro log replied
    constructor
    · intro id above below absent least
      have later : 2 ≤ push.id := by
        simp only [first, last] at above below
        omega
      have asks : reply = client.environment.pushes state.history
          push.repository first last :=
        if_pos later
      exact evidenceFor_of_shortfall start begins many missing later
        (asks ▸ replied) above below absent least
    · intro tips revisions collected
      obtain ⟨length, answers⟩ :=
        evidenceFor_of_tips start begins many missing replied tips
      refine ⟨?_, answers⟩
      simp only [first] at length
      rw [length]
      omega

/-- A push log that lists an empty push and one after all those that are asked
for. -/
def sparseClient : Client where
  environment := {
    fetch := fun _ _ _ => (.ok .pending, 0)
    pushes := fun _ _ _ _ =>
      .ok (Table.ofList [(3, ⟨[]⟩), (9, ⟨["later"]⟩)]) }
  polling := { interval := 1, timeout := 1, positive := Nat.one_pos }

/-- The evidence of a push that makes much of a task. -/
def freshEvidence : Evidence where
  tasks := Table.ofList [("task", .one)]
  known := Names.ofList ["fresh"]

/-- The evidence of a push that makes little of the same task. -/
def earlierEvidence : Evidence where
  tasks := Table.ofList [("task", .zero)]
  known := Names.ofList ["earlier"]

/-- A predictor that is ready, and a push log that lists one push. -/
def freshClient : Client where
  environment := {
    fetch := fun _ _ _ => (.ok (.ready freshEvidence), 0)
    pushes := fun _ _ _ _ => .ok (Table.ofList [(1, ⟨["earlier"]⟩)]) }
  polling := { interval := 1, timeout := 1, positive := Nat.one_pos }

/-- The evidence of the push `earlier` is remembered already. -/
def earlierState : State :=
  State.remember {} ⟨"autoland", "earlier", 1⟩ (.ready earlierEvidence)

theorem collect_fresh :
    (freshClient.collect "autoland" ["earlier", "head"]
      (earlierState.record (.queried "repo" 1 1))).1 =
        .ok [earlierEvidence, freshEvidence] := by
  have constant : freshClient.environment.AnswersAlways fun _ _ =>
      .ok (.ready freshEvidence) := fun _ _ _ => rfl
  have remembered : (earlierState.record (.queried "repo" 1 1)).cache.find?
      ⟨"autoland", "earlier", 1⟩ = some (.ready earlierEvidence) := rfl
  have unknown : (earlierState.record (.queried "repo" 1 1)).cache.find?
      ⟨"autoland", "head", 1⟩ = none := rfl
  have kept : Remembered.ofOutcome (freshClient.poll "autoland" "head"
      (earlierState.record (.queried "repo" 1 1))).1 =
        .ok (.ready freshEvidence) := by
    rw [poll_always_ready constant rfl]
    rfl
  rw [collect_cons_ok (evidenceOf_remembered remembered),
    collect_cons_ok (evidenceOf_polled unknown kept)]
  rfl

/-- Of the pushes 2 and 3 before push 4 the one that is not listed comes before
the empty one.  Two pushes that are ready carry the same task: it has the larger
confidence, and what either of them knows is known. -/
theorem evidenceFor_window_of_missing_push :
    let push (id : Int) : Push := {
      branch := "autoland", repository := "repo", revision := "head"
      project := "autoland", id }
    (2 ≤ 3 ∧ -(Word.signedLimit : Int) ≤ 4 - 3 + 1 ∧
      ({} : State).cache.find? ⟨"autoland", "head", 3⟩ = none ∧
      sparseClient.evidenceFor (push 4) 3 {} =
        (.error (.pushLog (.missingPush 2 2 3)),
          State.record {} (.queried "repo" 2 3))) ∧
    (2 ≤ 2 ∧ -(Word.signedLimit : Int) ≤ 2 - 2 + 1 ∧
      earlierState.cache.find? ⟨"autoland", "head", 2⟩ = none ∧
      ∃ summary,
        (freshClient.evidenceFor (push 2) 2 earlierState).1 = .ok summary ∧
        summary.tasks.find? "task" = some .one ∧
        summary.knows "earlier" = true ∧ summary.knows "fresh" = true) := by
  intro push
  constructor
  · have many : 2 ≤ 3 := by decide
    have fits : -(Word.signedLimit : Int) ≤ (push 4).id - (3 : Nat) + 1 := by
      decide
    have missing : ({} : State).cache.find?
        ⟨(push 4).branch, (push 4).revision, 3⟩ = none := rfl
    obtain ⟨_, _, listed⟩ :=
      evidenceFor_window sparseClient (push 4) many fits missing
    have least : ∀ smaller : Int, 2 ≤ smaller → smaller < 2 →
        PushLog.tip? (Table.ofList [(3, ⟨[]⟩), (9, ⟨["later"]⟩)]) smaller ≠
          none := by
      intro smaller above below
      omega
    have fails := (listed _ rfl).1 2 (by decide) (by decide) rfl least
    exact ⟨many, fits, missing, fails⟩
  · have many : 2 ≤ 2 := by decide
    have fits : -(Word.signedLimit : Int) ≤ (push 2).id - (2 : Nat) + 1 := by
      decide
    have missing : earlierState.cache.find? ⟨"autoland", "head", 2⟩ = none := by
      decide
    obtain ⟨_, _, listed⟩ :=
      evidenceFor_window freshClient (push 2) many fits missing
    have tips : ∀ id : Int, 1 ≤ id → id ≤ 1 →
        PushLog.tip? (Table.ofList [(1, ⟨["earlier"]⟩)]) id ≠ none := by
      intro id above below
      rw [Int.le_antisymm below above]
      decide
    obtain ⟨_, _, _, ready⟩ := (listed _ rfl).2 tips
    obtain ⟨summary, answered, summarizes⟩ := ready _ collect_fresh
    refine ⟨many, fits, missing, summary, answered, ?_,
      (summarizes.known "earlier").trans (by decide),
      (summarizes.known "fresh").trans (by decide)⟩
    have carried : Evidence.carried Evidence.tasks "task"
        [earlierEvidence, freshEvidence] = [.zero, .one] := by decide
    cases found : summary.tasks.find? "task" with
    | none =>
        have nowhere := (summarizes.absent Evidence.tasks (by simp
          [Evidence.confidences]) "task").mp found freshEvidence (by simp)
        exact absurd nowhere (by decide)
    | some value =>
        obtain ⟨among, largest⟩ := summarizes.largest Evidence.tasks
          (by simp [Evidence.confidences]) "task" value found (by
            rw [carried]
            decide)
        rw [carried] at among largest
        rcases List.mem_pair.mp among with isZero | isOne
        · have above := largest .one (by simp)
          rw [isZero] at above
          exact absurd above (by decide)
        · rw [isOne]

end TaskSieve.Client
