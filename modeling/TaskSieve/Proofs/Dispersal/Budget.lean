import Mathlib.Algebra.GroupWithZero.Nat
import Mathlib.Algebra.Order.BigOperators.Group.List
import Mathlib.Algebra.Order.Group.Nat
import TaskSieve.Proofs.Dispersal.Eligible

/-!
# How many candidates a plan retains

No group has a bound of its own, since a candidate that is retained for one
group counts in all its groups, however full they are.  But it is retained
only if one of them has room, and a group has room only while it is listed
less often than its share: as often as its importance asks for, and as often
again as it has places for new configurations.  What the retained candidates
have used up of the shares grows with each of them, so the shares of all
groups together bound how many there are.
-/

namespace TaskSieve.Plan

variable {targets : Targets} {groups : List (String × Importance)}
  {retained : List Candidate} {candidate : Candidate} {tasks : List Task}
  {importance : Table String Importance}

/-- How often a group is listed at most when it has room for one more
candidate. -/
def share (targets : Targets) (listed : String × Importance) : Nat :=
  (targets.count listed.2).toNat + targets.unseen.toNat

/-- What retained candidates have used up of the shares of some groups. -/
def spent (targets : Targets) (groups : List (String × Importance))
    (retained : List Candidate) :
    Nat :=
  (groups.map fun listed =>
    min (taken retained listed.1) (share targets listed)).sum

/-- The groups of some importance that candidates run, each of them once. -/
def groupsRun (tasks : List Task) (importance : Table String Importance) :
    List (String × Importance) :=
  importance.toList.filter fun listed =>
    (candidates tasks importance).any fun candidate => candidate.runs listed.1

theorem limit_le_share (configuration : String) (listed : String × Importance) :
    (limit targets retained configuration listed).toNat ≤
      share targets listed := by
  unfold limit share
  split
  · rw [UInt64.add_zero]
    exact Nat.le_add_right _ _
  · -- A sum that comes round is even less.
    rw [UInt64.toNat_add]
    exact Nat.mod_le _ _

theorem exists_taken_lt_share
    (room : hasRoom targets retained candidate = true) :
    ∃ listed ∈ candidate.groups,
      taken retained listed.1 < share targets listed := by
  simp only [hasRoom, List.any_eq_true, decide_eq_true_eq] at room
  obtain ⟨listed, member, below⟩ := room
  exact ⟨listed, member, Nat.lt_of_lt_of_le below (limit_le_share _ listed)⟩

theorem spent_le (targets : Targets) (groups : List (String × Importance))
    (retained : List Candidate) :
    spent targets groups retained ≤ (groups.map (share targets)).sum := by
  apply List.sum_le_sum
  intro listed _
  exact Nat.min_le_right _ _

/-- A candidate for which there is room uses up something of a share. -/
theorem spent_lt_of_hasRoom (room : hasRoom targets retained candidate = true)
    (among : candidate.groups ⊆ groups) :
    spent targets groups retained <
      spent targets groups (retained ++ [candidate]) := by
  obtain ⟨listed, member, below⟩ := exists_taken_lt_share room
  have added (group : String) : taken (retained ++ [candidate]) group =
      taken retained group + candidate.occurrences group := by
    rw [taken_append]
    rfl
  apply List.sum_lt_sum
  · intro other _
    rw [added]
    exact min_le_min_right _ (Nat.le_add_right _ _)
  · refine ⟨listed, among member, ?_⟩
    have used := Candidate.occurrences_pos member
    rw [added]
    omega

theorem length_walk_le_spent {rest : List Candidate}
    (among : ∀ candidate ∈ rest, candidate.groups ⊆ groups)
    (paid : retained.length ≤ spent targets groups retained) :
    (walk targets retained rest).length ≤
      spent targets groups (walk targets retained rest) := by
  induction rest generalizing retained with
  | nil => exact paid
  | cons candidate rest induction =>
      have later : ∀ other ∈ rest, other.groups ⊆ groups :=
        fun other member => among other (List.mem_cons_of_mem _ member)
      rw [walk]
      split
      · next room =>
          apply induction later
          rw [List.length_append, List.length_singleton]
          exact Nat.lt_of_le_of_lt paid
            (spent_lt_of_hasRoom room (among candidate (by simp)))
      · exact induction later paid

theorem groups_subset_groupsRun
    (member : candidate ∈ candidates tasks importance) :
    candidate.groups ⊆ groupsRun tasks importance := by
  intro listed inGroups
  have runs : candidate.runs listed.1 = true :=
    List.any_eq_true.mpr ⟨listed, inGroups, beq_self_eq_true listed.1⟩
  apply List.mem_filter.mpr
  constructor
  · exact Table.mem_toList_of_find? (important_of_mem member inGroups)
  · exact List.any_eq_true.mpr ⟨candidate, member, runs⟩

/-- A plan retains at most as many candidates as the groups that they run ask
for together, each with its places for new configurations, however many tasks,
platforms and groups of a task there are. -/
theorem compute_within_budget (tasks : List Task)
    (importance : Table String Importance) (targets : Targets) :
    (compute tasks importance targets).retained.size ≤
        (walk targets [] (candidates tasks importance)).length ∧
      (walk targets [] (candidates tasks importance)).length ≤
        ((groupsRun tasks importance).map fun listed =>
          (targets.count listed.2).toNat + targets.unseen.toNat).sum := by
  constructor
  · have named := Names.size_ofList_le
      ((walk targets [] (candidates tasks importance)).map (·.label))
    rwa [List.length_map] at named
  · calc (walk targets [] (candidates tasks importance)).length
      _ ≤ spent targets (groupsRun tasks importance)
            (walk targets [] (candidates tasks importance)) :=
          length_walk_le_spent (fun _ member => groups_subset_groupsRun member)
            (Nat.zero_le _)
      _ ≤ ((groupsRun tasks importance).map (share targets)).sum :=
        spent_le targets _ _

end TaskSieve.Plan
