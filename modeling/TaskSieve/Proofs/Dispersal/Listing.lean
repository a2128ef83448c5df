import Mathlib.Data.List.Induction
import TaskSieve.Proofs.Dispersal.Regrouping

/-!
# Tasks that list a group more than once

A retained candidate is counted for a group as often as it lists the group, so
a group that is listed twice by one task can be full before as many tasks run
it as its importance asks for.  A plan for tasks that list each group once
considers the same labels.  It retains the same ones exactly if every group of
a rejected candidate is also full when each retained candidate counts once.
-/

namespace TaskSieve

section Lists

variable {α β : Type} [BEq α] [LawfulBEq α] [BEq β] [LawfulBEq β]

theorem nodup_eraseDups : ∀ items : List α, items.eraseDups.Nodup
  | [] => List.nodup_nil
  | head :: rest => by
      rw [List.eraseDups_cons, List.nodup_cons]
      constructor
      · simp [List.mem_eraseDups]
      · exact nodup_eraseDups (rest.filter fun other => !other == head)
  termination_by items => items.length
  decreasing_by exact Nat.lt_succ_of_le (List.length_filter_le _ _)

theorem any_eraseDups (holds : α → Bool) (items : List α) :
    items.eraseDups.any holds = items.any holds := by
  rw [Bool.eq_iff_iff]
  simp only [List.any_eq_true, List.mem_eraseDups]

/-- Repetitions may be left out before or after the items are replaced by
different images. -/
theorem filterMap_eraseDups {image : α → Option β}
    (injective : ∀ first second value, image first = some value →
      image second = some value →
      first = second) :
    ∀ items : List α,
      items.eraseDups.filterMap image = (items.filterMap image).eraseDups
  | [] => rfl
  | head :: rest => by
      have induction :=
        filterMap_eraseDups injective (rest.filter fun other => !other == head)
      rw [List.eraseDups_cons]
      cases imaged : image head with
      | none =>
          rw [List.filterMap_cons_none imaged, List.filterMap_cons_none imaged,
            induction, List.filterMap_filter]
          congr 1
          apply List.filterMap_congr
          intro other _
          by_cases same : other = head
          · simp [same, imaged]
          · simp [same]
      | some value =>
          rw [List.filterMap_cons_some imaged, List.filterMap_cons_some imaged,
            induction, List.eraseDups_cons, List.filterMap_filter,
            List.filter_filterMap]
          congr 2
          apply List.filterMap_congr
          intro other _
          by_cases same : other = head
          · simp [same, imaged, Option.filter]
          · cases otherImaged : image other with
            | none => simp
            | some otherValue =>
                have differ : otherValue ≠ value := by
                  rintro rfl
                  exact same
                    (injective other head otherValue otherImaged imaged)
                simp [same, differ, Option.filter]
  termination_by items => items.length
  decreasing_by exact Nat.lt_succ_of_le (List.length_filter_le _ _)

end Lists

/-- A task that lists each of its groups once. -/
def Task.listOnce (task : Task) : Task :=
  { task with
    attributes := { task.attributes with
      manifests := task.attributes.manifests.map List.eraseDups } }

theorem Task.manifests_listOnce (task : Task) :
    task.listOnce.manifests = task.manifests.eraseDups := by
  unfold Task.manifests Task.listOnce
  cases task.attributes.manifests with
  | none => rfl
  | some groups => rfl

namespace Plan

open Candidate (Before regroup)

variable {targets : Targets} {group configuration : String}
  {candidate : Candidate} {retained ordered : List Candidate}
  {tasks : List Task} {importance : Table String Importance}

theorem groupsOf_listOnce (importance : Table String Importance) (task : Task) :
    Candidate.groupsOf importance task.listOnce =
      (Candidate.groupsOf importance task).eraseDups := by
  rw [Candidate.groupsOf, Task.manifests_listOnce]
  apply filterMap_eraseDups
  intro first second value imaged otherImaged
  simp only [Option.map_eq_some_iff] at imaged otherImaged
  obtain ⟨_, _, rfl⟩ := imaged
  obtain ⟨_, _, same⟩ := otherImaged
  exact (congrArg Prod.fst same).symm

theorem candidates_listOnce (tasks : List Task)
    (importance : Table String Importance) :
    candidates (tasks.map Task.listOnce) importance =
      (candidates tasks importance).map (regroup List.eraseDups) := by
  apply candidates_regroup
  rw [List.map_filterMap, List.filterMap_map]
  apply List.filterMap_congr
  intro task _
  have nonempty (groups : List (String × Importance)) :
      groups.eraseDups.isEmpty = groups.isEmpty := by
    rw [Bool.eq_iff_iff]
    simp only [List.isEmpty_iff, List.eq_nil_iff_forall_not_mem,
      List.mem_eraseDups]
  exact Candidate.ofTask?_regroup rfl rfl rfl rfl
    (groupsOf_listOnce importance task) nonempty

theorem nodup_of_mem_candidates_listOnce
    (member : candidate ∈ candidates (tasks.map Task.listOnce) importance) :
    (candidate.groups.map (·.1)).Nodup := by
  obtain ⟨task, listed, made⟩ := mem_candidates.mp member
  obtain ⟨original, _, rfl⟩ := List.mem_map.mp listed
  rw [(Candidate.ofTask?_eq_some made).2.2.1]
  apply Candidate.groupsOf_nodup
  rw [Task.manifests_listOnce]
  exact nodup_eraseDups _

theorem runs_listOnce (group : String) (candidate : Candidate) :
    (candidate.regroup List.eraseDups).runs group = candidate.runs group :=
  any_eraseDups _ candidate.groups

theorem covers_listOnce (retained : List Candidate)
    (group configuration : String) :
    covers (retained.map (regroup List.eraseDups)) group configuration =
      covers retained group configuration := by
  rw [covers, List.any_map, covers]
  congr 1
  funext candidate
  exact congrArg _ (runs_listOnce group candidate)

theorem length_membersOf_le_taken (retained : List Candidate) (group : String) :
    (membersOf group retained).length ≤ taken retained group := by
  induction retained with
  | nil => exact Nat.le_refl _
  | cons candidate rest induction =>
      rw [membersOf_cons, taken]
      split
      · next runs =>
          obtain ⟨listed, member, same⟩ := List.any_eq_true.mp runs
          have once := Candidate.occurrences_pos member
          rw [beq_iff_eq.mp same] at once
          rw [List.length_cons]
          omega
      · omega

/-- Whether every rejected candidate finds its groups full when each candidate
that is retained before it counts once for the groups that it runs. -/
def RejectsWhenFull (targets : Targets) (ordered : List Candidate) : Prop :=
  ∀ front candidate back, ordered = front ++ candidate :: back →
    hasRoom targets (walk targets [] front) candidate = false →
    ∀ listed ∈ candidate.groups,
      (limit targets (walk targets [] front) candidate.configuration
          listed).toNat ≤
        (membersOf listed.1 (walk targets [] front)).length

section Distinct

variable (distinct : ∀ candidate ∈ retained,
  ((candidate.regroup List.eraseDups).groups.map (·.1)).Nodup)

include distinct

theorem taken_listOnce (group : String) :
    taken (retained.map (regroup List.eraseDups)) group =
      (membersOf group retained).length := by
  rw [taken_eq_length_filter (List.forall_mem_map.mpr distinct), ← membersOf,
    membersOf_map_regroup (runs_listOnce group), List.length_map]

theorem hasRoom_listOnce_iff :
    hasRoom targets (retained.map (regroup List.eraseDups))
      (candidate.regroup List.eraseDups) =
        true ↔
      ∃ listed ∈ candidate.groups, (membersOf listed.1 retained).length <
        (limit targets retained candidate.configuration listed).toNat := by
  rw [hasRoom, Candidate.groups_regroup, any_eraseDups, List.any_eq_true]
  simp only [taken_listOnce distinct, limit, covers_listOnce,
    Candidate.configuration_regroup, decide_eq_true_eq]

/-- Counting each candidate once leaves at least the room that there is. -/
theorem hasRoom_listOnce (room : hasRoom targets retained candidate = true) :
    hasRoom targets (retained.map (regroup List.eraseDups))
      (candidate.regroup List.eraseDups) =
      true := by
  rw [hasRoom_listOnce_iff distinct]
  simp only [hasRoom, List.any_eq_true, decide_eq_true_eq] at room
  obtain ⟨listed, member, below⟩ := room
  exact ⟨listed, member,
    Nat.lt_of_le_of_lt (length_membersOf_le_taken retained listed.1) below⟩

end Distinct

theorem rejectsWhenFull_front {front back : List Candidate}
    (full : RejectsWhenFull targets (front ++ back)) :
    RejectsWhenFull targets front := by
  rintro before candidate after rfl rejected
  apply full before candidate (after ++ back) _ rejected
  rw [List.append_assoc, List.cons_append]

/-- As long as the rejected candidates find their groups full, the walk is the
same for tasks that list each group once. -/
theorem walk_listOnce
    (distinct : ∀ candidate ∈ ordered,
      ((candidate.regroup List.eraseDups).groups.map (·.1)).Nodup)
    (full : RejectsWhenFull targets ordered) :
    walk targets [] (ordered.map (regroup List.eraseDups)) =
      (walk targets [] ordered).map (regroup List.eraseDups) := by
  induction ordered using List.reverseRecOn with
  | nil => rfl
  | append_singleton front candidate induction =>
      have frontDistinct : ∀ other ∈ front,
          ((other.regroup List.eraseDups).groups.map (·.1)).Nodup :=
        fun other member => distinct other (List.mem_append_left _ member)
      have retainedDistinct : ∀ other ∈ walk targets [] front,
          ((other.regroup List.eraseDups).groups.map (·.1)).Nodup :=
        fun other member =>
          frontDistinct other ((walk_sublist targets front).subset member)
      rw [List.map_append, List.map_singleton, walk_concat, walk_concat,
        induction frontDistinct (rejectsWhenFull_front full)]
      cases room : hasRoom targets (walk targets [] front) candidate with
      | true =>
          rw [if_pos (hasRoom_listOnce retainedDistinct room), if_pos rfl,
            List.map_append, List.map_singleton]
      | false =>
          have filled := full front candidate [] rfl room
          rw [if_neg, if_neg Bool.false_ne_true]
          rw [hasRoom_listOnce_iff retainedDistinct]
          rintro ⟨listed, member, below⟩
          exact Nat.not_lt_of_le (filled listed member) below

theorem distinct_of_mem_candidates
    (member : candidate ∈ candidates tasks importance) :
    ((candidate.regroup List.eraseDups).groups.map (·.1)).Nodup := by
  have listed : candidate.regroup List.eraseDups ∈
      candidates (tasks.map Task.listOnce) importance := by
    rw [candidates_listOnce]
    exact List.mem_map_of_mem member
  exact nodup_of_mem_candidates_listOnce listed

theorem map_label_listOnce (ordered : List Candidate) :
    (ordered.map (regroup List.eraseDups)).map (·.label) =
      ordered.map (·.label) := by
  rw [List.map_map]
  rfl

theorem considered_listOnce (tasks : List Task)
    (importance : Table String Importance) (targets : Targets) :
    (compute (tasks.map Task.listOnce) importance targets).considered =
      (compute tasks importance targets).considered := by
  simp only [compute, candidates_listOnce, map_label_listOnce]

theorem compute_listOnce_of_rejectsWhenFull
    (full : RejectsWhenFull targets (candidates tasks importance)) :
    compute (tasks.map Task.listOnce) importance targets =
      compute tasks importance targets := by
  have walked := walk_listOnce (fun _ => distinct_of_mem_candidates) full
  simp only [compute, candidates_listOnce, walked, map_label_listOnce]

/-- Without repetitions each group of a rejected candidate is full in either way
of counting. -/
theorem rejectsWhenFull_of_nodup
    (distinct : ∀ candidate ∈ ordered, (candidate.groups.map (·.1)).Nodup) :
    RejectsWhenFull targets ordered := by
  rintro front candidate back rfl rejected listed member
  have counted : taken (walk targets [] front) listed.1 =
      (membersOf listed.1 (walk targets [] front)).length := by
    apply taken_eq_length_filter
    intro other retained
    exact distinct other
      (List.mem_append_left _ ((walk_sublist targets front).subset retained))
  rw [← counted]
  exact limit_le_taken_of_hasRoom_eq_false rejected member

section Labels

variable (labels : (tasks.map (·.label)).Nodup)

include labels

theorem labels_listOnce : ((tasks.map Task.listOnce).map (·.label)).Nodup := by
  rw [List.map_map]
  exact labels

theorem walk_listOnce_of_retained_eq
    (same : (compute (tasks.map Task.listOnce) importance targets).retained =
      (compute tasks importance targets).retained) :
    walk targets [] (candidates (tasks.map Task.listOnce) importance) =
      (walk targets [] (candidates tasks importance)).map
        (regroup List.eraseDups) := by
  rw [← filter_retained_eq_walk (labels_listOnce labels),
    ← filter_retained_eq_walk labels, same, candidates_listOnce,
    List.filter_map]
  rfl

theorem rejectsWhenFull_of_retained_eq
    (same : (compute (tasks.map Task.listOnce) importance targets).retained =
      (compute tasks importance targets).retained) :
    RejectsWhenFull targets (candidates tasks importance) := by
  intro front candidate back split rejected listed inGroups
  have sorted : (candidates tasks importance).Pairwise Before :=
    candidates_pairwise_before labels
  have listSorted :
      (candidates (tasks.map Task.listOnce) importance).Pairwise Before :=
    candidates_pairwise_before (labels_listOnce labels)
  have member : candidate ∈ candidates tasks importance := by simp [split]
  have listMember : candidate.regroup List.eraseDups ∈
      candidates (tasks.map Task.listOnce) importance := by
    rw [candidates_listOnce]
    exact List.mem_map_of_mem member
  have isFront : earlier candidate (candidates tasks importance) = front := by
    rw [split]
    exact earlier_eq_front (split ▸ sorted)
  have early : walk targets [] (earlier (candidate.regroup List.eraseDups)
      (candidates (tasks.map Task.listOnce) importance)) =
        (walk targets [] front).map (regroup List.eraseDups) := by
    rw [walk_earlier listSorted listMember,
      walk_listOnce_of_retained_eq labels same, earlier_map_regroup,
      ← walk_earlier sorted member, isFront]
  have retainedDistinct : ∀ other ∈ walk targets [] front,
      ((other.regroup List.eraseDups).groups.map (·.1)).Nodup := by
    intro other retained
    have inFront := (walk_sublist targets front).subset retained
    exact distinct_of_mem_candidates (split ▸ List.mem_append_left _ inFront)
  by_contra below
  have room : hasRoom targets
      (walk targets [] (earlier (candidate.regroup List.eraseDups)
      (candidates (tasks.map Task.listOnce) importance)))
        (candidate.regroup List.eraseDups) =
        true := by
    rw [early, hasRoom_listOnce_iff retainedDistinct]
    exact ⟨listed, inGroups, Nat.lt_of_not_le below⟩
  rw [← retained_compute_iff (labels_listOnce labels) listMember,
    Candidate.label_regroup, same, retained_compute_iff labels member,
    isFront, rejected] at room
  contradiction

end Labels

/-- For tasks that list each group once a plan considers the same labels.  It
retains the same ones if every group of a rejected candidate is also full when
each retained candidate counts once, in particular if no candidate lists a group
again, and with different labels only then. -/
theorem compute_listOnce (tasks : List Task)
    (importance : Table String Importance) (targets : Targets) :
    (compute (tasks.map Task.listOnce) importance targets).considered =
        (compute tasks importance targets).considered ∧
      (RejectsWhenFull targets (candidates tasks importance) →
        (compute (tasks.map Task.listOnce) importance targets).retained =
          (compute tasks importance targets).retained) ∧
      ((∀ candidate ∈ candidates tasks importance,
        (candidate.groups.map (·.1)).Nodup) →
        RejectsWhenFull targets (candidates tasks importance)) ∧
      ((tasks.map (·.label)).Nodup →
        (compute (tasks.map Task.listOnce) importance targets).retained =
          (compute tasks importance targets).retained →
        RejectsWhenFull targets (candidates tasks importance)) := by
  refine ⟨considered_listOnce tasks importance targets, ?_,
    rejectsWhenFull_of_nodup, ?_⟩
  · intro full
    rw [compute_listOnce_of_rejectsWhenFull full]
  · intro labels same
    exact rejectsWhenFull_of_retained_eq labels same

/-- A task that lists its group twice. -/
def repeater (label : String) : Task where
  label := label
  attributes :=
    { manifests := some ["group", "group"], platform := some "linux" }

/-- The candidate that a task makes which lists its group so many times. -/
def lister (level : Importance) (label : String) (times : Nat) : Candidate where
  label := label
  platform := "linux"
  variant := ""
  multiProcess := true
  groups := List.replicate times ("group", level)

theorem candidates_repeater (level : Importance) :
    candidates [repeater "a", Context.runnerNamed "b"]
      (Table.ofList [("group", level)]) =
      [lister level "a" 2, lister level "b" 1] := by
  have made : [repeater "a", Context.runnerNamed "b"].filterMap
      (Candidate.ofTask? (Table.ofList [("group", level)])) =
        [lister level "a" 2, lister level "b" 1] := by
    cases level <;> decide
  rw [candidates, made]
  apply List.mergeSort_of_pairwise
  cases level <;> decide

/-- A group of low importance is full after its first task, which lists it
twice. -/
theorem compute_listOnce_of_repeater :
    let importance := Table.ofList [("group", Importance.low)]
    let tasks := [repeater "a", Context.runnerNamed "b"]
    RejectsWhenFull {} (candidates tasks importance) ∧
      (compute (tasks.map Task.listOnce) importance {}).retained =
        (compute tasks importance {}).retained := by
  intro importance tasks
  have full : RejectsWhenFull {} (candidates tasks importance) := by
    rw [candidates_repeater]
    intro front candidate back split rejected
    rcases List.cons_eq_append_iff.mp split with
      ⟨rfl, same⟩ | ⟨rest, rfl, rest_eq⟩
    · cases same
      exact absurd rejected (by decide)
    · rcases List.cons_eq_append_iff.mp rest_eq with
        ⟨rfl, same⟩ | ⟨more, rfl, more_eq⟩
      · cases same
        decide
      · simp at more_eq
  exact ⟨full, (compute_listOnce tasks importance {}).2.1 full⟩

/-- A group of medium importance is full after one task that lists it twice, and
has room for a second task if the first one lists it once. -/
theorem compute_listOnce_differs :
    let importance := Table.ofList [("group", Importance.medium)]
    let tasks := [repeater "a", Context.runnerNamed "b"]
    (compute (tasks.map Task.listOnce) importance {}).retained ≠
      (compute tasks importance {}).retained := by
  intro importance tasks same
  have full : RejectsWhenFull {} (candidates tasks importance) :=
    rejectsWhenFull_of_retained_eq (by decide) same
  rw [candidates_repeater] at full
  have filled := full [lister .medium "a" 2] (lister .medium "b" 1) []
    rfl (by decide)
    ("group", .medium) (by decide)
  exact absurd filled (by decide)

end Plan

end TaskSieve
