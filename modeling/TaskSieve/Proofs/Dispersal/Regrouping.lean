import TaskSieve.Proofs.Dispersal.Locality

/-!
# Candidates with other groups

Where a plan comes to a candidate, and in which configuration the candidate
runs, does not depend on its groups.  So when the groups of the tasks are
listed in another way, or are of another importance, the plan walks through
the same candidates in the same order, with other groups.
-/

namespace TaskSieve

namespace Candidate

/-- A candidate with its groups rewritten. -/
def regroup (rewrite : List (String × Importance) → List (String × Importance))
    (candidate : Candidate) : Candidate :=
  { candidate with groups := rewrite candidate.groups }

variable {rewrite : List (String × Importance) → List (String × Importance)}

@[simp] theorem label_regroup (candidate : Candidate) :
    (candidate.regroup rewrite).label = candidate.label := rfl

@[simp] theorem configuration_regroup (candidate : Candidate) :
    (candidate.regroup rewrite).configuration = candidate.configuration := rfl

@[simp] theorem groups_regroup (candidate : Candidate) :
    (candidate.regroup rewrite).groups = rewrite candidate.groups := rfl

@[simp] theorem order_regroup (left right : Candidate) :
    order (left.regroup rewrite) (right.regroup rewrite) = order left right :=
  rfl

/-- Tasks that differ in their groups alone make candidates that do so. -/
theorem ofTask?_regroup {importance others : Table String Importance}
    {task other : Task} (label : other.label = task.label)
    (platform : other.attributes.platform = task.attributes.platform)
    (variant : other.attributes.variant = task.attributes.variant)
    (processes : other.attributes.multiProcess = task.attributes.multiProcess)
    (groups : groupsOf others other = rewrite (groupsOf importance task))
    (nonempty : ∀ groups, (rewrite groups).isEmpty = groups.isEmpty) :
    ofTask? others other = (ofTask? importance task).map (regroup rewrite) := by
  unfold ofTask?
  rw [platform, groups, label, variant, processes]
  cases task.attributes.platform with
  | none => rfl
  | some name =>
      cases empty : (groupsOf importance task).isEmpty with
      | true => simp [nonempty, empty]
      | false => simp [nonempty, empty, regroup]

end Candidate

namespace Plan

open Candidate

variable {rewrite : List (String × Importance) → List (String × Importance)}

theorem candidates_regroup {tasks others : List Task}
    {importance otherImportance : Table String Importance}
    (rewritten : others.filterMap (ofTask? otherImportance) =
      (tasks.filterMap (ofTask? importance)).map (regroup rewrite)) :
    candidates others otherImportance =
      (candidates tasks importance).map (regroup rewrite) := by
  rw [candidates, candidates, rewritten]
  symm
  apply List.map_mergeSort
  intro left _ right _
  rfl

/-- Those of some candidates that run a group. -/
def membersOf (group : String) (ordered : List Candidate) : List Candidate :=
  ordered.filter fun candidate => candidate.runs group

theorem membersOf_cons (group : String) (candidate : Candidate)
    (rest : List Candidate) :
    membersOf group (candidate :: rest) =
      if candidate.runs group then candidate :: membersOf group rest
      else membersOf group rest :=
  List.filter_cons

theorem membersOf_map_regroup {group : String}
    (same : ∀ candidate,
      (regroup rewrite candidate).runs group = candidate.runs group)
    (ordered : List Candidate) :
    membersOf group (ordered.map (regroup rewrite)) =
      (membersOf group ordered).map (regroup rewrite) := by
  rw [membersOf, List.filter_map, membersOf]
  congr 1
  apply List.filter_congr
  intro candidate _
  exact same candidate

theorem earlier_map_regroup (candidate : Candidate) (ordered : List Candidate) :
    earlier (candidate.regroup rewrite) (ordered.map (regroup rewrite)) =
      (earlier candidate ordered).map (regroup rewrite) :=
  List.filter_map

end Plan

end TaskSieve
