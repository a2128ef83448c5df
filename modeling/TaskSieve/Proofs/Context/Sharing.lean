import Mathlib.Data.List.Nodup
import TaskSieve.Proofs.Context.Reached

/-!
# Votes that share a context

Dispersal and the relevance of tests are decided from values that are derived
from the context and kept for later votes.  A vote on a context whose memo
holds only what the context makes of its keys answers as if there were no memo,
and leaves behind the value it needed.  So a run of such votes, in any order
and about any tasks, derives each value once, and the plans for different
targets stay apart.
-/

namespace TaskSieve

open Step

/-- A strategy that decides from values derived from the context. -/
inductive Voter
  | disperse (targets : Targets)
  | relevantTests

/-- The strategy that votes. -/
def Voter.strategy : Voter → Strategy
  | .disperse targets => .disperse targets
  | .relevantTests => .relevantTests

/-- A vote that is asked for. -/
structure Ballot where
  voter : Voter
  client : Client
  push : Push
  task : Task

/-- The state after a value was needed under a key: it is derived and kept
unless it is there. -/
def State.learn (state : State) : Option (String × Derived) → State
  | none => state
  | some (key, value) =>
      match state.memo.find? key with
      | some _ => state
      | none =>
          { state.record (.derived key) with
              memo := state.memo.insert key value }

namespace Context

/-- The vote that is asked for, as it is computed from the context without a
memo. -/
def directVote (context : Context) (ballot : Ballot) : Bool :=
  match ballot.voter with
  | .disperse targets =>
      !context.importance.isEmpty &&
        (Plan.compute context.candidates context.importance targets).removes
          ballot.task.label
  | .relevantTests =>
      match ballot.task.attributes.suite, context.changedFiles with
      | some _, some files =>
          !RelevantTests.anyUnder ballot.task.manifests
            (RelevantTests.directories files)
      | _, _ => false

/-- What a vote needs to be derived from the context, and the key of it. -/
def needed? (context : Context) (ballot : Ballot) : Option (String × Derived) :=
  match ballot.voter with
  | .disperse targets =>
      if context.importance.isEmpty then none
      else some (planKey targets,
        .plan (Plan.compute context.candidates context.importance targets))
  | .relevantTests =>
      match ballot.task.attributes.suite, context.changedFiles with
      | some _, some files =>
          some ("changed-dirs", .directories (RelevantTests.directories files))
      | _, _ => none

/-- Votes on a context, one after the other. -/
def voteAll (context : Context) : List Ballot → Step (List Bool)
  | [] => pure []
  | ballot :: rest => do
      let removed ← ballot.voter.strategy.decide {
        client :=
          ballot.client, context, push := ballot.push, task := ballot.task }
      let others ← voteAll context rest
      return removed :: others

end Context

section Learning

variable {context : Context} {state : State} {ballot : Ballot} {key : String}

theorem Context.derives_of_needed {value : Derived}
    (needed : context.needed? ballot = some (key, value)) :
    context.Derives key value := by
  unfold needed? at needed
  split at needed
  · split at needed
    · cases needed
    · cases needed
      exact .plan _
  · split at needed
    · cases needed
      exact .directories _ (by assumption)
    · cases needed

/-- Under a key of which the memo holds only the value that would be computed,
this value is found or computed, and it is there afterwards. -/
theorem Step.derive_learns {α : Type} {take : Derived → Option α}
    {wrap : α → Derived} {compute : Unit → α}
    (genuine :
      ∀ held, state.memo.find? key = some held → held = wrap (compute ()))
    (taken : take (wrap (compute ())) = some (compute ())) :
    derive key take wrap compute state =
      (.ok (compute ()), state.learn (some (key, wrap (compute ())))) := by
  cases present : state.memo.find? key with
  | none => simp [derive, State.learn, present]
  | some held =>
      obtain rfl := genuine held present
      simp [derive, State.learn, present, taken]

theorem Context.Extends.derives {memo : Memo} {held : Derived}
    (extending : context.Extends ∅ memo) (found : memo.find? key = some held) :
    context.Derives key held := by
  rcases extending key with missing | ⟨_, value, holds, derives⟩
  · rw [found, Table.find?_empty] at missing
    cases missing
  · rw [found] at holds
    cases holds
    exact derives

theorem Context.Extends.learn (extending : context.Extends ∅ state.memo)
    (ballot : Ballot) :
    context.Extends ∅ (state.learn (context.needed? ballot)).memo := by
  cases needed : context.needed? ballot with
  | none => exact extending
  | some source =>
      obtain ⟨key, value⟩ := source
      cases present : state.memo.find? key with
      | some held =>
          rw [State.learn, present]
          exact extending
      | none =>
          rw [State.learn, present]
          exact extending.insert present (derives_of_needed needed)

/-- A vote answers as without a memo, and what it needs is known afterwards. -/
theorem Context.decide_learns (extending : context.Extends ∅ state.memo)
    (ballot : Ballot) :
    ballot.voter.strategy.decide {
        client := ballot.client, context, push := ballot.push,
          task := ballot.task } state =
      (.ok (context.directVote ballot),
        state.learn (context.needed? ballot)) := by
  obtain ⟨voter, client, push, task⟩ := ballot
  cases voter with
  | disperse targets =>
      rw [Voter.strategy, Strategy.decide, removesDispersed, directVote,
        needed?]
      cases context.importance.isEmpty with
      | true => rfl
      | false =>
          have planned : context.plan targets state =
              (.ok (Plan.compute context.candidates context.importance targets),
                state.learn (some (planKey targets,
                  .plan (Plan.compute context.candidates context.importance
                    targets)))) :=
            derive_learns
              (fun held found => (extending.derives found).eq_plan rfl) rfl
          exact bind_apply_ok _ planned
  | relevantTests =>
      rw [Voter.strategy, Strategy.decide, removesIrrelevant, directVote,
        needed?]
      cases task.attributes.suite with
      | none => rfl
      | some suite =>
          cases known : context.changedFiles with
          | none => rfl
          | some files =>
              have found : Context.directories files state =
                  (.ok (RelevantTests.directories files),
                    state.learn (some ("changed-dirs",
                      .directories (RelevantTests.directories files)))) :=
                derive_learns (fun held found =>
                  (extending.derives found).eq_directories rfl known)
                  rfl
              exact bind_apply_ok _ found

end Learning

/-- What learning from sources, one after the other, makes of a state: every key
that a source gives and that was not known is derived once, the latest first. -/
structure State.Learns (start : State)
    (sources : List (Option (String × Derived))) (keys : List String)
    (after : State) : Prop where
  history : after.history = keys.map .derived ++ start.history
  once : keys.Nodup
  needed : ∀ key, key ∈ keys ↔
    start.memo.find? key = none ∧ ∃ value, some (key, value) ∈ sources
  known : ∀ key, after.memo.find? key = none ↔
    start.memo.find? key = none ∧ key ∉ keys
  cache : after.cache = start.cache
  now : after.now = start.now

namespace State.Learns

variable {start after : State} {sources : List (Option (String × Derived))}
  {keys : List String} {key : String} {value : Derived}

theorem nil (start : State) : start.Learns [] [] start where
  history := rfl
  once := .nil
  needed key := by simp
  known key := by simp
  cache := rfl
  now := rfl

theorem cons_nothing (learns : start.Learns sources keys after) :
    start.Learns (none :: sources) keys after where
  history := learns.history
  once := learns.once
  needed other := by simp [learns.needed other]
  known := learns.known
  cache := learns.cache
  now := learns.now

/-- A key that is known is not derived again. -/
theorem cons_known {held : Derived} (found : start.memo.find? key = some held)
    (learns : start.Learns sources keys after) :
    start.Learns (some (key, value) :: sources) keys after where
  history := learns.history
  once := learns.once
  needed other := by
    by_cases same : other = key
    · subst same
      simp [learns.needed other, found]
    · simp [learns.needed other, same]
  known := learns.known
  cache := learns.cache
  now := learns.now

/-- A key that is not known is derived before all later ones, and never
again. -/
theorem cons_missing (missing : start.memo.find? key = none)
    (learns : (start.learn (some (key, value))).Learns sources keys after) :
    start.Learns (some (key, value) :: sources) (keys ++ [key]) after := by
  have learned : start.learn (some (key, value)) =
      { start.record (.derived key) with
        memo := start.memo.insert key value } := by
    rw [learn, missing]
  rw [learned] at learns
  -- The value is there from now on, so no later source finds the key missing.
  have notAgain : key ∉ keys := by
    intro member
    have absent := ((learns.needed key).mp member).1
    rw [Table.find?_insert_self] at absent
    cases absent
  have elsewhere : ∀ other, other ≠ key →
      (start.memo.insert key value).find? other = start.memo.find? other :=
    fun other different => start.memo.find?_insert_of_ne value different
  refine ⟨?_, ?_, ?_, ?_, learns.cache, learns.now⟩
  · rw [learns.history, List.map_append, List.append_assoc]
    rfl
  · rw [← List.concat_eq_append, List.nodup_concat]
    exact ⟨notAgain, learns.once⟩
  · intro other
    by_cases same : other = key
    · subst same
      simp [missing]
    · simp [learns.needed other, elsewhere other same, same]
  · intro other
    rw [learns.known other]
    by_cases same : other = key
    · subst same
      simp
    · simp [elsewhere other same, same]

end State.Learns

/-- Whatever the sources are, learning from them derives each key at most
once. -/
theorem State.learns_foldl (sources : List (Option (String × Derived)))
    (start : State) :
    ∃ keys, start.Learns sources keys (sources.foldl State.learn start) := by
  induction sources generalizing start with
  | nil => exact ⟨[], .nil start⟩
  | cons source rest induction =>
      cases source with
      | none =>
          obtain ⟨keys, learns⟩ := induction start
          exact ⟨keys, learns.cons_nothing⟩
      | some source =>
          obtain ⟨key, value⟩ := source
          obtain ⟨keys, learns⟩ := induction (start.learn (some (key, value)))
          cases present : start.memo.find? key with
          | none => exact ⟨keys ++ [key], learns.cons_missing present⟩
          | some held =>
              have unchanged : start.learn (some (key, value)) = start := by
                rw [learn, present]
              rw [List.foldl_cons, unchanged]
              rw [unchanged] at learns
              exact ⟨keys, learns.cons_known present⟩

namespace Context

/-- A run of votes answers like direct votes, and each vote leaves behind what
it needed. -/
theorem voteAll_learns {context : Context} (ballots : List Ballot)
    {state : State} (extending : context.Extends ∅ state.memo) :
    context.voteAll ballots state =
      (.ok (ballots.map context.directVote),
        (ballots.map context.needed?).foldl State.learn state) := by
  induction ballots generalizing state with
  | nil => rfl
  | cons ballot rest induction =>
      -- What the first vote leaves behind is again only what the context makes
      -- of its keys.
      have others := induction (extending.learn ballot)
      rw [voteAll, bind_apply_ok _ (decide_learns extending ballot),
        bind_apply_ok _ others]
      rfl

/-- What is learned from votes is what the context makes of the keys. -/
theorem Extends.foldl_learn {context : Context} (ballots : List Ballot)
    {state : State} (extending : context.Extends ∅ state.memo) :
    context.Extends ∅
      ((ballots.map context.needed?).foldl State.learn state).memo := by
  induction ballots generalizing state with
  | nil => exact extending
  | cons ballot rest induction => exact induction (extending.learn ballot)

theorem needed?_plan_iff (context : Context) (ballot : Ballot)
    (targets : Targets) :
    (∃ value, context.needed? ballot = some (planKey targets, value)) ↔
      context.importance.isEmpty = false ∧
      ballot.voter = .disperse targets := by
  rw [needed?]
  cases ballot.voter with
  | disperse others =>
      cases context.importance.isEmpty with
      | true => simp
      | false =>
          constructor
          · rintro ⟨value, needed⟩
            cases planKey_injective (Prod.mk.inj (Option.some.inj needed)).1
            exact ⟨rfl, rfl⟩
          · rintro ⟨_, ⟨⟩⟩
            exact ⟨_, rfl⟩
  | relevantTests =>
      constructor
      · rintro ⟨value, needed⟩
        dsimp only at needed
        split at needed
        · exact absurd (Prod.mk.inj (Option.some.inj needed)).1.symm
            (planKey_ne_directories _)
        · cases needed
      · rintro ⟨_, ⟨⟩⟩

theorem needed?_directories_iff (context : Context) (ballot : Ballot) :
    (∃ value, context.needed? ballot = some ("changed-dirs", value)) ↔
      ballot.voter = .relevantTests ∧ ballot.task.attributes.suite.isSome ∧
        context.changedFiles.isSome := by
  rw [needed?]
  cases ballot.voter with
  | disperse targets =>
      constructor
      · rintro ⟨value, needed⟩
        dsimp only at needed
        split at needed
        · cases needed
        · exact absurd (Prod.mk.inj (Option.some.inj needed)).1
            (planKey_ne_directories _)
      · rintro ⟨⟨⟩, _⟩
  | relevantTests =>
      cases ballot.task.attributes.suite with
      | none => simp
      | some suite =>
          cases context.changedFiles with
          | none => simp
          | some files => simp

/-- A context makes at most one value of a key. -/
theorem Derives.unique {context : Context} {key : String}
    {value other : Derived} (derives : context.Derives key value)
    (derivesOther : context.Derives key other) : value = other := by
  cases derivesOther with
  | directories files known => exact derives.eq_directories rfl known
  | plan targets => exact derives.eq_plan rfl

/-- For a run of votes on a context of which nothing is derived yet, in any
order and about any tasks, the memo does not show: each vote is the one that is
computed from the context directly.  What is derived on the way is listed by its
keys, each of them once: one for each targets that a dispersal was asked for
with, however many of its votes there are, and one for the changed directories.
Under each of these keys, and under no other, the memo then holds what the
context makes of it, and no two targets have one key. -/
theorem voteAll_transparent (context : Context) (ballots : List Ballot)
    (state : State) :
    ∃ (keys : List String) (after : State),
      context.voteAll ballots { state with memo := ∅ } =
        (.ok (ballots.map context.directVote), after) ∧
      after.history = keys.map Event.derived ++ state.history ∧ keys.Nodup ∧
      (∀ targets, planKey targets ∈ keys ↔
        context.importance.isEmpty = false ∧
          ∃ ballot ∈ ballots, ballot.voter = .disperse targets) ∧
      ("changed-dirs" ∈ keys ↔
        context.changedFiles.isSome ∧ ∃ ballot ∈ ballots,
          ballot.voter = .relevantTests ∧ ballot.task.attributes.suite.isSome) ∧
      (∀ key value, after.memo.find? key = some value ↔
        key ∈ keys ∧ context.Derives key value) ∧
      Function.Injective planKey ∧
      (∀ targets, planKey targets ≠ "changed-dirs") ∧
      after.cache = state.cache ∧ after.now = state.now := by
  have extending : context.Extends ∅ ({ state with memo := ∅ } : State).memo :=
    .refl
  obtain ⟨keys, learns⟩ :=
    State.learns_foldl (ballots.map context.needed?) { state with memo := ∅ }
  have needed : ∀ key, key ∈ keys ↔
      ∃ ballot ∈ ballots,
        ∃ value, context.needed? ballot = some (key, value) := by
    intro key
    rw [learns.needed key]
    constructor
    · rintro ⟨_, value, member⟩
      obtain ⟨ballot, listed, gives⟩ := List.mem_map.mp member
      exact ⟨ballot, listed, value, gives⟩
    · rintro ⟨ballot, listed, value, gives⟩
      exact ⟨rfl, value, List.mem_map.mpr ⟨ballot, listed, gives⟩⟩
  refine ⟨keys, _, voteAll_learns ballots extending, learns.history,
    learns.once, ?_, ?_, ?_, fun _ _ => planKey_injective,
    planKey_ne_directories, learns.cache, learns.now⟩
  · intro targets
    rw [needed]
    simp only [needed?_plan_iff]
    tauto
  · rw [needed]
    simp only [needed?_directories_iff]
    tauto
  · intro key value
    have settled := extending.foldl_learn ballots
    constructor
    · intro found
      refine ⟨?_, settled.derives found⟩
      by_contra absent
      rw [(learns.known key).mpr ⟨rfl, absent⟩] at found
      cases found
    · rintro ⟨member, derives⟩
      cases found : ((ballots.map context.needed?).foldl State.learn
          { state with memo := ∅ }).memo.find? key with
      | none => exact absurd member ((learns.known key).mp found).2
      | some held => rw [(settled.derives found).unique derives]

end Context

end TaskSieve
