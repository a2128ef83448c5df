import Mathlib.Data.List.Dedup
import TaskSieve.Context
import TaskSieve.Proofs.Dispersal.Walk
import TaskSieve.Proofs.Table

/-!
# Tasks and candidates

A task of a context is eligible for dispersal when it has a platform and runs
a group of some importance; that makes it a candidate with the same label and
these groups.  Tasks with different labels are different candidates, so
candidates may be counted in place of tasks.
-/

namespace TaskSieve

namespace Candidate

variable {importance : Table String Importance} {task : Task}
  {candidate : Candidate}

theorem mem_groupsOf {group : String} {level : Importance} :
    (group, level) ∈ groupsOf importance task ↔
      group ∈ task.manifests ∧ importance.find? group = some level := by
  simp only [groupsOf, List.mem_filterMap, Option.map_eq_some_iff,
    Prod.mk.injEq]
  constructor
  · rintro ⟨listed, member, found, important, rfl, rfl⟩
    exact ⟨member, important⟩
  · rintro ⟨member, important⟩
    exact ⟨group, member, level, important, rfl, rfl⟩

theorem groupsOf_nodup (distinct : task.manifests.Nodup) :
    ((groupsOf importance task).map (·.1)).Nodup := by
  have sublist :
      ((groupsOf importance task).map (·.1)).Sublist task.manifests := by
    unfold groupsOf
    generalize task.manifests = manifests
    induction manifests with
    | nil => exact .slnil
    | cons group rest induction =>
        cases found : importance.find? group with
        | none => simpa [found] using induction.cons group
        | some level => simpa [found] using induction.cons_cons group
  exact sublist.nodup distinct

theorem ofTask?_eq_some (made : ofTask? importance task = some candidate) :
    task.attributes.platform.isSome = true ∧ candidate.label = task.label ∧
      candidate.groups = groupsOf importance task ∧
      groupsOf importance task ≠ [] := by
  unfold ofTask? at made
  cases platform : task.attributes.platform with
  | none => simp [platform] at made
  | some name =>
      cases groups : groupsOf importance task with
      | nil => simp [platform, groups] at made
      | cons first rest =>
          simp [platform, groups] at made
          subst made
          exact ⟨rfl, rfl, rfl, by simp⟩

theorem exists_ofTask? (platform : task.attributes.platform.isSome = true)
    (groups : groupsOf importance task ≠ []) :
    ∃ candidate, ofTask? importance task = some candidate := by
  obtain ⟨name, named⟩ := Option.isSome_iff_exists.mp platform
  have listed : (groupsOf importance task).isEmpty = false := by
    simpa using groups
  simp [ofTask?, named, listed]

end Candidate

namespace Context

/-- A task as a candidate for dispersal. -/
def candidate? (context : Context) (task : Task) : Option Candidate :=
  Candidate.ofTask? context.importance task

/-- Whether a task has a platform and runs a group of some importance. -/
def isEligible (context : Context) (task : Task) : Bool :=
  task.attributes.platform.isSome &&
    task.manifests.any context.importance.contains

/-- The eligible tasks that run a group. -/
def runners (context : Context) (group : String) : List Task :=
  context.candidates.filter fun task => context.isEligible task &&
    task.manifests.contains group

/-- The name of the configuration that an eligible task runs in. -/
def configuration? (context : Context) (task : Task) : Option String :=
  (context.candidate? task).map Candidate.configuration

/-- Whether the plan comes to an eligible task strictly before another one. -/
def WalksBefore (context : Context) (earlier later : Task) : Prop :=
  ∃ left right, context.candidate? earlier = some left ∧
    context.candidate? later = some right ∧
    Candidate.order left right = .lt

variable {context : Context} {task : Task} {candidate : Candidate}

theorem isEligible_iff :
    context.isEligible task = true ↔
      ∃ candidate, context.candidate? task = some candidate := by
  unfold isEligible candidate?
  simp only [Bool.and_eq_true, List.any_eq_true]
  constructor
  · rintro ⟨platform, group, member, important⟩
    obtain ⟨level, found⟩ := Option.isSome_iff_exists.mp important
    apply Candidate.exists_ofTask? platform
    exact List.ne_nil_of_mem (Candidate.mem_groupsOf.mpr ⟨member, found⟩)
  · rintro ⟨candidate, made⟩
    obtain ⟨platform, _, _, groups⟩ := Candidate.ofTask?_eq_some made
    obtain ⟨⟨group, level⟩, listed⟩ := List.exists_mem_of_ne_nil _ groups
    obtain ⟨member, found⟩ := Candidate.mem_groupsOf.mp listed
    exact ⟨platform, group, member, Option.isSome_iff_exists.mpr ⟨level, found⟩⟩

theorem label_of_candidate? (made : context.candidate? task = some candidate) :
    candidate.label = task.label :=
  (Candidate.ofTask?_eq_some made).2.1

theorem mem_groups_of_candidate?
    (made : context.candidate? task = some candidate) {group : String}
    {level : Importance} :
    (group, level) ∈ candidate.groups ↔
      group ∈ task.manifests ∧ context.importance.find? group = some level := by
  rw [(Candidate.ofTask?_eq_some made).2.2.1]
  exact Candidate.mem_groupsOf

theorem mem_runners {group : String} :
    task ∈ context.runners group ↔
      task ∈ context.candidates ∧ context.isEligible task = true ∧
      group ∈ task.manifests := by
  simp [runners]

theorem mem_runners_of_runs (inContext : task ∈ context.candidates)
    (made : context.candidate? task = some candidate) {group : String}
    (runs : candidate.runs group = true) : task ∈ context.runners group := by
  simp only [Candidate.runs, List.any_eq_true, beq_iff_eq] at runs
  obtain ⟨⟨listed, level⟩, member, rfl⟩ := runs
  exact mem_runners.mpr ⟨inContext, isEligible_iff.mpr ⟨candidate, made⟩,
    ((mem_groups_of_candidate? made).mp member).1⟩

theorem labels_filterMap_sublist (importance : Table String Importance)
    (tasks : List Task) :
    ((tasks.filterMap (Candidate.ofTask? importance)).map (·.label)).Sublist
      (tasks.map (·.label)) := by
  induction tasks with
  | nil => exact .slnil
  | cons task rest induction =>
      cases made : Candidate.ofTask? importance task with
      | none => simpa [made] using induction.cons task.label
      | some candidate =>
          have same := (Candidate.ofTask?_eq_some made).2.1
          simpa [made, same] using induction.cons_cons task.label

theorem labels_candidates_nodup {tasks : List Task}
    (labels : (tasks.map (·.label)).Nodup)
    (importance : Table String Importance) :
    ((Plan.candidates tasks importance).map (·.label)).Nodup := by
  have sorted :=
    (List.mergeSort_perm (tasks.filterMap (Candidate.ofTask? importance))
    Candidate.precedes).map (·.label)
  exact sorted.nodup_iff.mpr
    ((labels_filterMap_sublist importance tasks).nodup labels)

/-- Different candidates of a context come from as many of its tasks. -/
theorem exists_tasks_of_candidates {chosen : List Candidate}
    (distinct : chosen.Nodup) {group : String}
    (among : ∀ candidate ∈ chosen, candidate.runs group = true ∧
      ∃ task ∈ context.candidates, context.candidate? task = some candidate) :
    ∃ tasks : List Task, tasks.Sublist (context.runners group) ∧
      chosen.length ≤ tasks.length ∧
      (∀ task ∈ tasks, ∃ candidate ∈ chosen, context.candidate? task =
        some candidate) ∧
      ∀ candidate ∈ chosen, ∃ task ∈ tasks, context.candidate? task =
        some candidate := by
  let isChosen (task : Task) : Bool :=
    decide (∃ candidate ∈ chosen, context.candidate? task = some candidate)
  have covered : ∀ candidate ∈ chosen,
      ∃ task ∈ (context.runners group).filter isChosen,
        context.candidate? task = some candidate := by
    intro candidate member
    obtain ⟨runs, task, inContext, made⟩ := among candidate member
    refine ⟨task,
      List.mem_filter.mpr ⟨mem_runners_of_runs inContext made runs, ?_⟩, made⟩
    exact decide_eq_true ⟨candidate, member, made⟩
  refine ⟨(context.runners group).filter isChosen, List.filter_sublist,
    ?_, ?_, covered⟩
  · have subset : chosen ⊆
        ((context.runners group).filter isChosen).filterMap
          context.candidate? := by
      intro candidate member
      exact List.mem_filterMap.mpr (covered candidate member)
    exact Nat.le_trans (List.subperm_of_subset distinct subset).length_le
      (List.length_filterMap_le _ _)
  · intro task member
    exact of_decide_eq_true (List.mem_filter.mp member).2

end Context

namespace Plan

theorem important_of_mem {tasks : List Task}
    {importance : Table String Importance} {candidate : Candidate}
    {listed : String × Importance}
    (member : candidate ∈ candidates tasks importance)
    (inGroups : listed ∈ candidate.groups) :
    importance.find? listed.1 = some listed.2 := by
  obtain ⟨task, _, made⟩ := mem_candidates.mp member
  rw [(Candidate.ofTask?_eq_some made).2.2.1] at inGroups
  exact (Candidate.mem_groupsOf.mp inGroups).2

end Plan

end TaskSieve
