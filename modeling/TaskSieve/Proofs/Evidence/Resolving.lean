import Mathlib.Data.Int.Range
import TaskSieve.Proofs.Evidence.Gathering

/-!
# Which revisions belong to a window

The push log is asked for the pushes of a window before the push itself, when
there are any.  Each of them stands for its last changeset.  The first push
without one is what resolving the window fails with, whatever else the push log
lists; otherwise the window has as many revisions as pushes, and the last of
them is that of the push itself.
-/

namespace TaskSieve

namespace PushLog

theorem range_eq_nil {first next : Int} (empty : next ≤ first) :
    Int.range first next = [] := by
  have none : (next - first).toNat = 0 := by omega
  simp [Int.range, none]

theorem range_eq_cons {first next : Int} (less : first < next) :
    Int.range first next = first :: Int.range (first + 1) next := by
  have more : (next - first).toNat = (next - (first + 1)).toNat + 1 := by omega
  rw [Int.range, Int.range, more, List.range_succ_eq_map, List.map_cons,
    List.map_map]
  simp [Function.comp_def, Int.add_comm, Int.add_left_comm]

/-- The last changeset of a push, if the push is listed and has changesets. -/
def tip? (log : PushLog) (id : Int) : Option String :=
  (log.find? id).bind fun entry => entry.changesets.getLast?

/-- What a range fails with for a push without a last changeset. -/
def shortfall (log : PushLog) (first last id : Int) : PushLogError :=
  match log.find? id with
  | none => .missingPush id first last
  | some _ => .emptyPush id

variable {log : PushLog} {first last : Int}

theorem revision_eq (log : PushLog) (first last id : Int) :
    log.revision first last id =
      match log.tip? id with
      | some revision => .ok revision
      | none => .error (log.shortfall first last id) := by
  cases found : log.find? id with
  | none => simp [revision, tip?, shortfall, found]
  | some entry =>
      cases tip : entry.changesets.getLast? with
      | none => simp [revision, tip?, shortfall, found, tip]
      | some revision => simp [PushLog.revision, tip?, found, tip]

theorem revisionsFrom_succ (count : Nat) (id : Int) :
    log.revisionsFrom first last (count + 1) id =
      match log.tip? id with
      | none => .error (log.shortfall first last id)
      | some revision =>
          (log.revisionsFrom first last count (id + 1)).map
            ((id, revision) :: ·) := by
  rw [revisionsFrom, revision_eq]
  cases log.tip? id with
  | none => rfl
  | some revision => cases log.revisionsFrom first last count (id + 1) <;> rfl

/-- Pushes that all have a last changeset stand for these, in order. -/
theorem revisionsFrom_of_tips (log : PushLog) (first last : Int) (count : Nat)
    (start : Int)
    (tips : ∀ id, start ≤ id → id < start + count → log.tip? id ≠ none) :
    ∃ found, log.revisionsFrom first last count start = .ok found ∧
      found.map (·.2) = (Int.range start (start + count)).filterMap log.tip? ∧
      found.length = count := by
  induction count generalizing start with
  | zero => exact ⟨[], rfl, by simp [range_eq_nil], rfl⟩
  | succ count induction =>
      obtain ⟨revision, tip⟩ :=
        Option.ne_none_iff_exists'.mp (tips start (by omega) (by omega))
      obtain ⟨found, resolved, revisions, length⟩ := induction (start + 1)
        fun id above below => tips id (by omega) (by omega)
      refine ⟨(start, revision) :: found, ?_, ?_, by simp [length]⟩
      · rw [revisionsFrom_succ, tip, resolved]
        rfl
      · have sameEnd : start + ((count + 1 : Nat) : Int) =
            start + 1 + count := by omega
        rw [sameEnd, range_eq_cons (by omega), List.filterMap_cons, tip,
          List.map_cons, revisions]

/-- The first push without a last changeset is the one that the range fails
with. -/
theorem revisionsFrom_of_shortfall (log : PushLog) (first last : Int)
    (count : Nat) (start : Int) {id : Int} (above : start ≤ id)
    (below : id < start + count) (absent : log.tip? id = none)
    (least :
      ∀ smaller, start ≤ smaller → smaller < id → log.tip? smaller ≠ none) :
    log.revisionsFrom first last count start =
      .error (log.shortfall first last id) := by
  induction count generalizing start with
  | zero => omega
  | succ count induction =>
      rw [revisionsFrom_succ]
      by_cases same : start = id
      · subst same
        rw [absent]
      · obtain ⟨revision, tip⟩ :=
          Option.ne_none_iff_exists'.mp (least start (by omega) (by omega))
        rw [tip, induction (start + 1) (by omega) (by omega)
          fun smaller lower upper => least smaller (by omega) upper]
        rfl

theorem length_of_revisionsFrom {count : Nat} {start : Int}
    {found : List (Int × String)}
    (resolved : log.revisionsFrom first last count start = .ok found) :
    found.length = count := by
  induction count generalizing start found with
  | zero =>
      cases resolved
      rfl
  | succ count induction =>
      rw [revisionsFrom_succ] at resolved
      cases tip : log.tip? start with
      | none => simp [tip] at resolved
      | some revision =>
          cases rest : log.revisionsFrom first last count (start + 1) with
          | error error => simp [tip, rest, Except.map] at resolved
          | ok others =>
              simp only [tip, rest, Except.map, Except.ok.injEq] at resolved
              subst resolved
              simp [induction rest]

/-- Every revision that a range resolves to is the last changeset of a push of
the range. -/
theorem tip_of_mem_revisionsFrom {count : Nat} {start : Int}
    {found : List (Int × String)}
    (resolved : log.revisionsFrom first last count start = .ok found) {id : Int}
    {revision : String} (member : (id, revision) ∈ found) :
    start ≤ id ∧ id < start + count ∧ log.tip? id = some revision := by
  induction count generalizing start found with
  | zero =>
      cases resolved
      cases member
  | succ count induction =>
      rw [revisionsFrom_succ] at resolved
      cases tip : log.tip? start with
      | none => simp [tip] at resolved
      | some latest =>
          cases rest : log.revisionsFrom first last count (start + 1) with
          | error error => simp [tip, rest, Except.map] at resolved
          | ok others =>
              simp only [tip, rest, Except.map, Except.ok.injEq] at resolved
              subst resolved
              rcases List.mem_cons.mp member with same | later
              · cases same
                exact ⟨Int.le_refl _, by omega, tip⟩
              · obtain ⟨above, below, found⟩ := induction rest later
                exact ⟨by omega, by omega, found⟩

end PushLog

/-- The state in which a window of several pushes has been resolved: the push
log was asked about the earlier pushes, if the window has any. -/
def State.resolving (state : State) (push : Push) (pushes : Nat) : State :=
  if Client.windowStart push.id pushes < push.id then
    state.record (.queried push.repository
      (Client.windowStart push.id pushes) (push.id - 1))
  else state

section Window

variable {push : Push} {pushes : Nat}
  {log : (repository : String) → (first last : Int) →
    Except PushLogError PushLog}

namespace Client

theorem one_le_windowStart (id : Int) (pushes : Nat) :
    1 ≤ windowStart id pushes :=
  Int.le_max_right _ _

/-- Counted in a word a window starts no earlier than it does without. -/
theorem le_windowStart (id : Int) (pushes : Nat) :
    id - pushes + 1 ≤ windowStart id pushes :=
  Int.le_trans (Word.le_comeRound _) (Int.le_max_left _ _)

theorem windowStart_of_fits {id : Int}
    (fits : -(Word.signedLimit : Int) ≤ id - pushes + 1) :
    windowStart id pushes = max (id - pushes + 1) 1 := by
  rw [windowStart, Word.comeRound_eq_self fits]

/-- For numbers that words hold the start is told by arithmetic modulo their
count. -/
theorem windowStart_eq_bmod {id : Int} (idFits : Word.isSigned id = true)
    (pushesFit : pushes < Word.count) (some : 1 ≤ pushes) :
    windowStart id pushes = max ((id - pushes + 1).bmod Word.count) 1 := by
  simp only [Word.isSigned, Bool.and_eq_true, decide_eq_true_eq] at idFits
  rw [windowStart, Word.comeRound, Int.bmod_def]
  unfold Word.signedLimit Word.count at *
  split <;> split <;> omega

/-- A window whose pushes a word can count has earlier pushes unless it ends
with the first push of all. -/
theorem windowStart_lt_iff {id : Int} (many : 1 < pushes)
    (fits : -(Word.signedLimit : Int) ≤ id - pushes + 1) :
    windowStart id pushes < id ↔ 2 ≤ id := by
  rw [windowStart_of_fits fits]
  omega

theorem window_eq (client : Client) (push : Push) (pushes : Nat)
    (state : State) :
    client.window push pushes state =
      (PushLog.windowFor (client.environment.pushes state.history) push pushes,
        state.resolving push pushes) := by
  have resolved := resolve_eq client.environment push.repository
    (windowStart push.id pushes) (push.id - 1) state
  have sameState : (if push.id - 1 < windowStart push.id pushes then state
      else state.record (.queried push.repository
        (windowStart push.id pushes) (push.id - 1))) =
      state.resolving push pushes := by
    unfold State.resolving
    by_cases asks : windowStart push.id pushes < push.id
    · rw [if_pos asks, if_neg (by omega)]
    · rw [if_neg asks, if_pos (by omega)]
  rw [sameState] at resolved
  unfold window PushLog.windowFor
  cases answered : PushLog.answerFor (client.environment.pushes state.history)
      push.repository (windowStart push.id pushes) (push.id - 1) with
  | ok earlier =>
      rw [answered] at resolved
      rw [Step.bind_apply_ok _ resolved]
      rfl
  | error failure =>
      rw [answered] at resolved
      rw [Step.bind_apply_error _ resolved]

end Client

namespace PushLog

/-- Without earlier pushes the push stands alone in its window. -/
theorem windowFor_of_alone
    (alone : push.id ≤ Client.windowStart push.id pushes) :
    windowFor log push pushes = .ok [push.revision] := by
  have empty : push.id - 1 < Client.windowStart push.id pushes := by omega
  simp [windowFor, answerFor, empty]

variable (asks : Client.windowStart push.id pushes < push.id)

include asks

theorem windowFor_of_error {error : PushLogError}
    (failed : log push.repository (Client.windowStart push.id pushes)
      (push.id - 1) = .error error) :
    windowFor log push pushes = .error (.pushLog error) := by
  have asked : ¬push.id - 1 < Client.windowStart push.id pushes := by omega
  simp [windowFor, answerFor, asked, failed]

variable {entries : PushLog}
  (listed : log push.repository (Client.windowStart push.id pushes)
    (push.id - 1) = .ok entries)

include listed

theorem windowFor_of_listed :
    windowFor log push pushes =
      match entries.revisions (Client.windowStart push.id pushes)
        (push.id - 1) with
      | .ok earlier => .ok (earlier.map (·.2) ++ [push.revision])
      | .error error => .error (.pushLog error) := by
  have asked : ¬push.id - 1 < Client.windowStart push.id pushes := by omega
  unfold windowFor answerFor
  rw [if_neg asked, listed]
  cases resolved : entries.revisions (Client.windowStart push.id pushes)
      (push.id - 1) with
  | ok earlier =>
      simp only [resolved]
      rfl
  | error error =>
      simp only [resolved]
      rfl

theorem windowFor_of_tips
    (tips : ∀ id, Client.windowStart push.id pushes ≤ id → id < push.id →
      entries.tip? id ≠ none) :
    windowFor log push pushes =
      .ok ((Int.range (Client.windowStart push.id pushes) push.id).filterMap
        entries.tip? ++ [push.revision]) := by
  have ends : Client.windowStart push.id pushes +
      ((push.id - 1 + 1 - Client.windowStart push.id pushes).toNat : Int) =
        push.id := by
    omega
  obtain ⟨found, resolved, revisions, _⟩ := revisionsFrom_of_tips entries
    (Client.windowStart push.id pushes) (push.id - 1)
    (push.id - 1 + 1 - Client.windowStart push.id pushes).toNat
    (Client.windowStart push.id pushes) (by rw [ends]; exact tips)
  rw [windowFor_of_listed asks listed, PushLog.revisions, resolved]
  simp only [revisions, ends]

theorem windowFor_of_shortfall {id : Int}
    (above : Client.windowStart push.id pushes ≤ id) (below : id < push.id)
    (absent : entries.tip? id = none)
    (least : ∀ smaller, Client.windowStart push.id pushes ≤ smaller →
      smaller < id → entries.tip? smaller ≠ none) :
    windowFor log push pushes =
      .error (.pushLog (entries.shortfall (Client.windowStart push.id pushes)
        (push.id - 1) id)) := by
  have failed := revisionsFrom_of_shortfall entries
    (Client.windowStart push.id pushes) (push.id - 1)
    (push.id - 1 + 1 - Client.windowStart push.id pushes).toNat
    (Client.windowStart push.id pushes) above (by omega) absent least
  rw [windowFor_of_listed asks listed, PushLog.revisions, failed]

end PushLog

/-- A window has its last push and all from its start to there. -/
theorem PushLog.length_of_windowFor {revisions : List String}
    (resolved : windowFor log push pushes = .ok revisions) :
    (revisions.length : Int) =
      max (push.id - Client.windowStart push.id pushes) 0 + 1 := by
  by_cases asks : Client.windowStart push.id pushes < push.id
  · cases answered : log push.repository
        (Client.windowStart push.id pushes) (push.id - 1) with
    | error error =>
        rw [windowFor_of_error asks answered] at resolved
        cases resolved
    | ok entries =>
        rw [windowFor_of_listed asks answered] at resolved
        cases found : entries.revisions (Client.windowStart push.id pushes)
            (push.id - 1) with
        | error error =>
            rw [found] at resolved
            cases resolved
        | ok earlier =>
            rw [found] at resolved
            cases resolved
            have length := length_of_revisionsFrom found
            simp only [List.length_append, List.length_map,
              List.length_singleton, length]
            omega
  · rw [windowFor_of_alone (Int.not_lt.mp asks)] at resolved
    cases resolved
    simp only [List.length_singleton]
    omega

/-- A window has at most as many revisions as pushes. -/
theorem PushLog.length_le_of_windowFor (some : 1 ≤ pushes)
    {revisions : List String}
    (resolved : windowFor log push pushes = .ok revisions) :
    revisions.length ≤ pushes := by
  have length := length_of_windowFor resolved
  have start := Client.le_windowStart push.id pushes
  omega

/-- Only the push log can leave a window unresolved. -/
theorem PushLog.exists_of_windowFor {failure : Failure}
    (unresolved : windowFor log push pushes = .error failure) :
    ∃ error, failure = .pushLog error := by
  unfold windowFor answerFor at unresolved
  split at unresolved
  · cases unresolved
  · rename_i other failed
    cases unresolved
    split at failed
    · cases failed
    · split at failed
      · cases failed
        exact ⟨_, rfl⟩
      · rename_i entries _
        cases resolved : entries.revisions (Client.windowStart push.id pushes)
          (push.id - 1) with
        | ok earlier =>
            rw [resolved] at failed
            cases failed
        | error error =>
            rw [resolved] at failed
            cases failed
            exact ⟨error, rfl⟩

theorem PushLog.isTimeout_of_windowFor {failure : Failure}
    (unresolved : windowFor log push pushes = .error failure) :
    failure.isTimeout = false := by
  obtain ⟨error, rfl⟩ := exists_of_windowFor unresolved
  rfl

theorem PushLog.getLast?_of_windowFor {revisions : List String}
    (resolved : windowFor log push pushes = .ok revisions) :
    revisions.getLast? = some push.revision := by
  unfold windowFor at resolved
  split at resolved
  · cases resolved
    simp
  · cases resolved

end Window

end TaskSieve
