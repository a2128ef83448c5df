import TaskSieve.Proofs.Context.Reached
import TaskSieve.Proofs.Dispersal.Eligible

/-!
# What dispersing keeps of a group

A vote against a task rests on the plan for the whole context, which is the
same whenever the vote is asked for.  A task is only removed when each of its
important groups is run often enough by kept tasks that come before it, so
that no group loses more tasks than its importance allows.
-/

namespace TaskSieve

open Step

namespace Plan

variable {tasks : List Task} {importance : Table String Importance}
  {targets : Targets}

theorem removes_compute_iff {label : String} :
    (compute tasks importance targets).removes label = true ↔
      (∃ candidate ∈ candidates tasks importance, candidate.label = label) ∧
        ∀ candidate ∈ walk targets [] (candidates tasks importance),
          candidate.label ≠ label := by
  simp [removes, compute, Names.contains_ofList]

end Plan

namespace Context

/-- Whether the plan of a context for some targets lets a task stay. -/
def retains (context : Context) (targets : Targets) (task : Task) : Bool :=
  context.importance.isEmpty ||
    !(Plan.compute context.candidates context.importance targets).removes
      task.label

/-- The eligible tasks that run a group and that the plan lets stay. -/
def keptRunners (context : Context) (targets : Targets) (group : String) :
    List Task :=
  (context.runners group).filter fun task => context.retains targets task

/-- A task that is kept by dispersing, whenever that is asked for. -/
def Keeps (context : Context) (targets : Targets) (task : Task) : Prop :=
  ∀ client push state, context.Reached state →
    ((Strategy.disperse targets).decide { client, context, push, task }
      state).1 = .ok false

variable {context : Context} {targets : Targets} {task : Task} {state : State}

/-- The vote tells what the plan of the whole context says, however it is come
by. -/
theorem decide_disperse (client : Client) (push : Push)
    (reached : context.Reached state) :
    ((Strategy.disperse targets).decide { client, context, push, task }
      state).1 =
      .ok !context.retains targets task := by
  rw [Strategy.decide, removesDispersed, retains]
  cases context.importance.isEmpty with
  | true => rfl
  | false =>
      have planned : ∃ after, context.plan targets state =
          (.ok (Plan.compute context.candidates context.importance targets),
          after) :=
        reached.derived fun allows => plan_settles allows targets
      obtain ⟨after, answered⟩ := planned
      simp only [Bool.false_eq_true, if_false, Bool.false_or, Bool.not_not]
      rw [bind_apply_ok _ answered]
      rfl

theorem keeps_of_retains (retained : context.retains targets task = true) :
    context.Keeps targets task := by
  intro client push state reached
  rw [decide_disperse client push reached, retained]
  rfl

theorem retains_of_mem_walk {candidate : Candidate}
    (made : context.candidate? task = some candidate)
    (kept : candidate ∈
      Plan.walk targets []
        (Plan.candidates context.candidates context.importance)) :
    context.retains targets task = true := by
  have stays :
      (Plan.compute context.candidates context.importance targets).removes
      task.label = false := by
    rw [Bool.eq_false_iff]
    intro removes
    exact (Plan.removes_compute_iff.mp removes).2 candidate kept
      (label_of_candidate? made)
  simp [retains, stays]

variable (labels : (context.candidates.map (·.label)).Nodup)

include labels

/-- A removed task is a candidate that the walk has rejected. -/
theorem exists_rejected (inContext : task ∈ context.candidates)
    (removed : context.retains targets task = false) :
    ∃ candidate, context.candidate? task = some candidate ∧
      candidate ∈ Plan.candidates context.candidates context.importance ∧
      candidate ∉
        Plan.walk targets []
          (Plan.candidates context.candidates context.importance) := by
  have removes :
      (Plan.compute context.candidates context.importance targets).removes
      task.label = true := by
    simp only [retains, Bool.or_eq_false_iff, Bool.not_eq_false'] at removed
    exact removed.2
  obtain ⟨⟨candidate, member, sameLabel⟩, absent⟩ :=
    Plan.removes_compute_iff.mp removes
  obtain ⟨other, otherInContext, made⟩ := Plan.mem_candidates.mp member
  have same : other = task := by
    apply List.inj_on_of_nodup_map labels otherInContext inContext
    rw [← sameLabel]
    exact (label_of_candidate? made).symm
  subst same
  refine ⟨candidate, made, member, ?_⟩
  intro retained
  exact absent candidate retained sameLabel

variable (manifests : ∀ task ∈ context.candidates, task.manifests.Nodup)

include manifests

/-- Each important group of a removed task is run by enough kept tasks before
it. -/
theorem redundant_of_removed (inContext : task ∈ context.candidates)
    (removed : context.retains targets task = false) {group : String}
    {level : Importance} (runs : group ∈ task.manifests)
    (important : context.importance.find? group = some level)
    (fits : targets.Fits level) :
    ∃ kept : List Task, kept.Sublist (context.runners group) ∧
      (∀ other ∈ kept,
        context.retains targets other = true ∧
          context.WalksBefore other task) ∧
      (targets.count level).toNat ≤ kept.length ∧
      ((∃ other ∈ kept,
          context.configuration? other = context.configuration? task) ∨
        (targets.count level).toNat + targets.unseen.toNat ≤ kept.length) := by
  obtain ⟨candidate, made, member, rejected⟩ :=
    exists_rejected labels inContext removed
  have distinct :
      ∀ candidate ∈ Plan.candidates context.candidates context.importance,
      (candidate.groups.map (·.1)).Nodup := by
    intro other otherMember
    obtain ⟨task, taskInContext, otherMade⟩ :=
      Plan.mem_candidates.mp otherMember
    rw [(Candidate.ofTask?_eq_some otherMade).2.2.1]
    exact Candidate.groupsOf_nodup (manifests task taskInContext)
  have candidateLabels := labels_candidates_nodup labels context.importance
  have listed := (mem_groups_of_candidate? made).mpr ⟨runs, important⟩
  obtain ⟨chosen, sublist, before, enough, covered⟩ :=
    Plan.walk_redundant
      (Plan.candidates_pairwise context.candidates context.importance)
      candidateLabels distinct member rejected listed fits
  have ordered := sublist.trans (Plan.walk_sublist targets _)
  have chosenDistinct : chosen.Nodup :=
    List.Nodup.of_map _ ((ordered.map (·.label)).nodup candidateLabels)
  have among : ∀ other ∈ chosen, other.runs group = true ∧
      ∃ task ∈ context.candidates,
        context.candidate? task = some other := fun other isChosen =>
    ⟨(before other isChosen).1,
      Plan.mem_candidates.mp (ordered.subset isChosen)⟩
  obtain ⟨kept, keptRunners, count, fromChosen, toKept⟩ :=
    exists_tasks_of_candidates chosenDistinct among
  refine ⟨kept, keptRunners, ?_, Nat.le_trans enough count, ?_⟩
  · intro other isKept
    obtain ⟨otherCandidate, isChosen, otherMade⟩ := fromChosen other isKept
    exact ⟨retains_of_mem_walk otherMade (sublist.subset isChosen),
      otherCandidate, candidate, otherMade, made,
      (before otherCandidate isChosen).2⟩
  · rcases covered with ⟨otherCandidate, isChosen, sameConfiguration⟩ | many
    · obtain ⟨other, isKept, otherMade⟩ := toKept otherCandidate isChosen
      left
      refine ⟨other, isKept, ?_⟩
      simp [configuration?, otherMade, made, sameConfiguration]
    · exact .inr (Nat.le_trans many count)

omit labels manifests in
theorem sublist_keptRunners {chosen : List Task} {group : String}
    (sublist : chosen.Sublist (context.runners group))
    (retained : ∀ task ∈ chosen, context.retains targets task = true) :
    chosen.Sublist (context.keptRunners targets group) := by
  have filtered := sublist.filter fun task => context.retains targets task
  rwa [List.filter_eq_self.mpr retained] at filtered

variable {group : String} {level : Importance}
  (important : context.importance.find? group = some level)
  (fits : targets.Fits level)

include important fits

theorem keptRunners_redundant (runner : task ∈ context.runners group)
    (removed : context.retains targets task = false) :
    (targets.count level).toNat ≤
        (context.keptRunners targets group).length ∧
      ((∃ other ∈ context.keptRunners targets group,
          context.configuration? other = context.configuration? task) ∨
        (targets.count level).toNat + targets.unseen.toNat ≤
          (context.keptRunners targets group).length) := by
  obtain ⟨inContext, _, runs⟩ := mem_runners.mp runner
  obtain ⟨chosen, sublist, before, enough, covered⟩ :=
    redundant_of_removed labels manifests inContext removed runs important fits
  have kept : chosen.Sublist (context.keptRunners targets group) :=
    sublist_keptRunners sublist fun other member => (before other member).1
  refine ⟨Nat.le_trans enough kept.length_le, ?_⟩
  rcases covered with ⟨other, member, same⟩ | many
  · exact .inl ⟨other, kept.subset member, same⟩
  · exact .inr (Nat.le_trans many kept.length_le)

theorem min_count_le_keptRunners :
    min (targets.count level).toNat (context.runners group).length ≤
      (context.keptRunners targets group).length := by
  by_cases all : ∀ task ∈ context.runners group,
    context.retains targets task = true
  · have whole := sublist_keptRunners (List.Sublist.refl _) all
    exact Nat.le_trans (Nat.min_le_right _ _) whole.length_le
  · obtain ⟨task, runner, removed⟩ : ∃ task ∈ context.runners group,
        context.retains targets task = false := by
      simpa using all
    have enough :=
      (keptRunners_redundant labels manifests important fits runner removed).1
    exact Nat.le_trans (Nat.min_le_left _ _) enough

theorem min_configurations_le_keptRunners :
    min ((targets.count level).toNat + targets.unseen.toNat)
      ((context.runners group).filterMap context.configuration?).dedup.length ≤
        (context.keptRunners targets group).length := by
  by_cases many : (targets.count level).toNat + targets.unseen.toNat ≤
      (context.keptRunners targets group).length
  · exact Nat.le_trans (Nat.min_le_left _ _) many
  · -- Otherwise every configuration of a removed task is also that of a kept
    -- one.
    have covered :
        ((context.runners group).filterMap context.configuration?).dedup ⊆
        (context.keptRunners targets group).filterMap
          context.configuration? := by
      intro configuration member
      obtain ⟨task, runner, runsIn⟩ :=
        List.mem_filterMap.mp (List.mem_dedup.mp member)
      apply List.mem_filterMap.mpr
      cases retained : context.retains targets task with
      | true => exact ⟨task, List.mem_filter.mpr ⟨runner, retained⟩, runsIn⟩
      | false =>
          have redundant :=
            keptRunners_redundant labels manifests important fits runner
              retained
          rcases redundant.2 with ⟨other, isKept, same⟩ | enough
          · exact ⟨other, isKept, same.trans runsIn⟩
          · exact (many enough).elim
    have counted :=
      (List.subperm_of_subset (List.nodup_dedup _) covered).length_le
    exact Nat.le_trans (Nat.min_le_right _ _)
      (Nat.le_trans counted (List.length_filterMap_le _ _))

omit important fits

omit labels manifests in
theorem one_le_configurations (runs : 1 ≤ (context.runners group).length) :
    1 ≤ ((context.runners group).filterMap
      context.configuration?).dedup.length := by
  obtain ⟨task, runner⟩ := List.exists_mem_of_length_pos runs
  obtain ⟨_, eligible, _⟩ := mem_runners.mp runner
  obtain ⟨candidate, made⟩ := isEligible_iff.mp eligible
  have runsIn : candidate.configuration ∈
      (context.runners group).filterMap context.configuration? :=
    List.mem_filterMap.mpr ⟨task, runner, by simp [configuration?, made]⟩
  exact List.length_pos_of_mem (List.mem_dedup.mpr runsIn)

/-- Dispersing only removes an eligible task when each of its important groups
is kept by enough tasks before it.  So a group keeps as many tasks as its
importance asks for, and as many more as there are configurations, if only it
has them.  A word must hold how many these are. -/
theorem disperse_redundant (targets : Targets) :
    (∀ task ∈ context.candidates, ∀ client push state, context.Reached state →
      ((Strategy.disperse targets).decide { client, context, push, task }
        state).1 = .ok true →
      context.isEligible task = true ∧
      ∀ group ∈ task.manifests, ∀ level,
        context.importance.find? group = some level → targets.Fits level →
        ∃ kept : List Task, kept.Sublist (context.runners group) ∧
          (∀ other ∈ kept,
            context.Keeps targets other ∧ context.WalksBefore other task) ∧
          (targets.count level).toNat ≤ kept.length ∧
          ((∃ other ∈ kept,
              context.configuration? other = context.configuration? task) ∨
            (targets.count level).toNat + targets.unseen.toNat ≤
              kept.length)) ∧
    ∀ group level,
      context.importance.find? group = some level → targets.Fits level →
      ∃ kept : List Task, kept.Sublist (context.runners group) ∧
        (∀ task ∈ kept, context.Keeps targets task) ∧
        min (targets.count level).toNat (context.runners group).length ≤
          kept.length ∧
        min ((targets.count level).toNat + targets.unseen.toNat)
          ((context.runners group).filterMap
            context.configuration?).dedup.length ≤ kept.length ∧
        (1 ≤ (targets.count level).toNat + targets.unseen.toNat →
          1 ≤ (context.runners group).length → 1 ≤ kept.length) := by
  constructor
  · intro task inContext client push state reached vote
    rw [decide_disperse client push reached, Except.ok.injEq,
      Bool.not_eq_true'] at vote
    obtain ⟨candidate, made, _, _⟩ := exists_rejected labels inContext vote
    refine ⟨isEligible_iff.mpr ⟨candidate, made⟩, ?_⟩
    intro group runs level important fits
    obtain ⟨kept, sublist, before, bounds⟩ :=
      redundant_of_removed labels manifests inContext vote runs important fits
    refine ⟨kept, sublist, ?_, bounds⟩
    intro other member
    exact ⟨keeps_of_retains (before other member).1, (before other member).2⟩
  · intro group level important fits
    have covering : min ((targets.count level).toNat + targets.unseen.toNat)
        ((context.runners group).filterMap
          context.configuration?).dedup.length ≤
            (context.keptRunners targets group).length :=
      min_configurations_le_keptRunners labels manifests important fits
    refine ⟨context.keptRunners targets group, List.filter_sublist, ?_,
      min_count_le_keptRunners labels manifests important fits, covering, ?_⟩
    · intro task member
      exact keeps_of_retains (List.mem_filter.mp member).2
    · intro some runs
      have configurations := one_le_configurations runs
      omega

omit labels manifests

/-- A task that runs one group on one platform. -/
def runnerNamed (label : String) : Task where
  label := label
  attributes := { manifests := some ["group"], platform := some "linux" }

/-- Two tasks with the same configuration and a group of low importance. -/
def twoRunners : Context where
  candidates := [runnerNamed "first", runnerNamed "second"]
  importance := Table.ofList [("group", .low)]

theorem twoRunners_removes_second :
    twoRunners.retains {} (runnerNamed "second") = false := by
  let candidate (label : String) : Candidate :=
    { label, platform := "linux", variant := "", multiProcess := true,
      groups := [("group", .low)] }
  have made : twoRunners.candidates.filterMap
      (Candidate.ofTask? twoRunners.importance) =
      [candidate "first", candidate "second"] := by decide
  have walked : Plan.candidates twoRunners.candidates twoRunners.importance =
      [candidate "first", candidate "second"] := by
    rw [Plan.candidates, made]
    exact List.mergeSort_of_pairwise (by decide)
  have removes :
      (Plan.compute twoRunners.candidates twoRunners.importance {}).removes
      (runnerNamed "second").label = true := by
    rw [Plan.removes_compute_iff, walked]
    decide
  have important : twoRunners.importance.isEmpty = false := by decide
  rw [retains, removes, important]
  rfl

/-- Of two tasks with the same configuration the second is removed, and the
first is kept. -/
theorem disperse_redundant_of_two_runners :
    let client : Client := {
      environment := {
        fetch := fun _ _ _ => (.ok .pending, 0)
        pushes := fun _ _ _ _ => .ok ∅ }
      polling := { interval := 1, timeout := 1, positive := Nat.one_pos } }
    let push : Push := {
      branch := "autoland", repository := "repo", revision := "abc",
      project := "autoland", id := 3 }
    ((Strategy.disperse {}).decide
      { client, context := twoRunners, push,
        task := runnerNamed "second" } {}).1 = .ok true ∧
    ∃ kept : List Task, kept.Sublist (twoRunners.runners "group") ∧
      (∀ other ∈ kept, twoRunners.Keeps {} other ∧
        twoRunners.WalksBefore other (runnerNamed "second")) ∧
        1 ≤ kept.length := by
  intro client push
  have labels : (twoRunners.candidates.map (·.label)).Nodup := by decide
  have manifests : ∀ task ∈ twoRunners.candidates, task.manifests.Nodup := by
    decide
  have reached : twoRunners.Reached {} := .fresh {} rfl
  have vote : ((Strategy.disperse {}).decide
      { client, context := twoRunners, push,
        task := runnerNamed "second" } {}).1 = .ok true := by
    rw [decide_disperse client push reached, twoRunners_removes_second]
    rfl
  refine ⟨vote, ?_⟩
  obtain ⟨redundant, _⟩ := disperse_redundant labels manifests {}
  obtain ⟨_, groups⟩ :=
    redundant (runnerNamed "second") (by simp [twoRunners]) client push
      {} reached vote
  obtain ⟨kept, sublist, before, enough, _⟩ :=
    groups "group" (by simp [runnerNamed, Task.manifests]) .low (by decide)
      (by decide)
  exact ⟨kept, sublist, before, enough⟩

end Context

end TaskSieve
