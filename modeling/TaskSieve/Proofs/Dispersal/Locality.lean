import Mathlib.Data.List.Sort
import TaskSieve.Proofs.Dispersal.Redundancy

/-!
# What the decision on a candidate rests on

Candidates with different labels are strictly ordered, so a plan walks through
them in the same way however their tasks are listed.  The walk retains a
candidate when those retained before it leave it room.  Neither the candidates
after it nor the tasks that are no candidates play a part in that.
-/

namespace TaskSieve

open Std

namespace Candidate

/-- Whether a plan comes to a candidate strictly before another one. -/
def Before (left right : Candidate) : Prop := order left right = .lt

instance (left right : Candidate) : Decidable (Before left right) :=
  inferInstanceAs (Decidable (order left right = .lt))

variable {left right candidate : Candidate}

theorem not_before_self (candidate : Candidate) :
    ¬ Before candidate candidate := by
  intro before
  have same : order candidate candidate = .eq := ReflCmp.compare_self
  rw [Before, same] at before
  contradiction

theorem Before.not_before (before : Before left right) :
    ¬ Before right left := by
  intro after
  exact not_before_self left (TransCmp.lt_trans before after)

theorem Before.precedes (before : Before left right) :
    precedes left right = true := by
  rw [Candidate.precedes, before]
  rfl

instance : Irrefl Before := ⟨not_before_self⟩

instance : Antisymm Before :=
  ⟨fun _ _ before after => (before.not_before after).elim⟩

/-- A task with no platform or without important groups is no candidate. -/
theorem ofTask?_eq_none {importance : Table String Importance} {task : Task}
    (idle : task.attributes.platform = none ∨
      ∀ group ∈ task.manifests, importance.find? group = none) :
    ofTask? importance task = none := by
  cases made : ofTask? importance task with
  | none => rfl
  | some candidate =>
      obtain ⟨platform, _, _, groups⟩ := ofTask?_eq_some made
      rcases idle with noPlatform | unimportant
      · simp [noPlatform] at platform
      · obtain ⟨⟨group, level⟩, listed⟩ := List.exists_mem_of_ne_nil _ groups
        obtain ⟨member, found⟩ := mem_groupsOf.mp listed
        simp [unimportant group member] at found

end Candidate

namespace Plan

open Candidate (Before)

variable {targets : Targets} {candidate : Candidate}

/-- Those of some candidates that a plan comes to before a given one. -/
def earlier (candidate : Candidate) (ordered : List Candidate) :
    List Candidate :=
  ordered.filter fun other => Before other candidate

theorem earlier_append (front back : List Candidate) :
    earlier candidate (front ++ back) = earlier candidate front ++
      earlier candidate back :=
  List.filter_append front back

theorem earlier_eq_self {ordered : List Candidate}
    (before : ∀ other ∈ ordered, Before other candidate) :
    earlier candidate ordered = ordered := by
  apply List.filter_eq_self.mpr
  intro other member
  exact decide_eq_true (before other member)

theorem earlier_eq_nil {ordered : List Candidate}
    (after : ∀ other ∈ ordered, ¬ Before other candidate) :
    earlier candidate ordered = [] := by
  apply List.filter_eq_nil_iff.mpr
  intro other member
  rw [decide_eq_true_eq]
  exact after other member

section Sorted

variable {front back ordered : List Candidate}

theorem before_of_mem_front
    (sorted : (front ++ candidate :: back).Pairwise Before) :
    ∀ other ∈ front, Before other candidate := by
  intro other member
  exact (List.pairwise_append.mp sorted).2.2 other member candidate (by simp)

theorem not_before_of_mem_rest
    (sorted : (front ++ candidate :: back).Pairwise Before) :
    ∀ other ∈ candidate :: back, ¬ Before other candidate := by
  have rest := (List.pairwise_append.mp sorted).2.1
  intro other member
  rcases List.mem_cons.mp member with rfl | inBack
  · exact Candidate.not_before_self other
  · exact ((List.pairwise_cons.mp rest).1 other inBack).not_before

theorem earlier_eq_front
    (sorted : (front ++ candidate :: back).Pairwise Before) :
    earlier candidate (front ++ candidate :: back) = front := by
  rw [earlier_append, earlier_eq_self (before_of_mem_front sorted),
    earlier_eq_nil (not_before_of_mem_rest sorted), List.append_nil]

/-- Those retained before a candidate are what a walk of the ones before it
retains. -/
theorem walk_earlier (sorted : ordered.Pairwise Before)
    (member : candidate ∈ ordered) :
    walk targets [] (earlier candidate ordered) =
      earlier candidate (walk targets [] ordered) := by
  obtain ⟨front, back, rfl⟩ := List.append_of_mem member
  obtain ⟨later, sublist, equality⟩ :=
    walk_eq_append targets (walk targets [] front) (candidate :: back)
  have before : ∀ other ∈ walk targets [] front, Before other candidate := by
    intro other retained
    exact before_of_mem_front sorted other
      ((walk_sublist targets front).subset retained)
  have after : ∀ other ∈ later, ¬ Before other candidate := by
    intro other retained
    exact not_before_of_mem_rest sorted other (sublist.subset retained)
  rw [earlier_eq_front sorted, walk_append, equality, earlier_append,
    earlier_eq_self before, earlier_eq_nil after, List.append_nil]

/-- The walk retains a candidate when those retained of the earlier ones leave
it room. -/
theorem mem_walk_iff (sorted : ordered.Pairwise Before)
    (member : candidate ∈ ordered) :
    candidate ∈ walk targets [] ordered ↔
      hasRoom targets (walk targets [] (earlier candidate ordered)) candidate =
        true := by
  obtain ⟨front, back, rfl⟩ := List.append_of_mem member
  have once := List.nodup_middle.mp sorted.nodup
  have absent : candidate ∉ front ++ back := (List.nodup_cons.mp once).1
  rw [earlier_eq_front sorted, walk_append]
  cases room : hasRoom targets (walk targets [] front) candidate with
  | true =>
      obtain ⟨later, _, equality⟩ :=
        walk_eq_append targets (walk targets [] front ++ [candidate]) back
      rw [walk, if_pos room, equality]
      simp
  | false =>
      obtain ⟨later, sublist, equality⟩ :=
        walk_eq_append targets (walk targets [] front) back
      have unroomed : ¬ hasRoom targets (walk targets [] front) candidate =
          true := by
        rw [room]
        exact Bool.false_ne_true
      rw [walk, if_neg unroomed, equality]
      have subset := ((walk_sublist targets front).append sublist).subset
      constructor
      · intro retained
        exact (absent (subset retained)).elim
      · intro contradictory
        contradiction

end Sorted

variable {tasks others : List Task} {importance : Table String Importance}

theorem candidates_pairwise_before (labels : (tasks.map (·.label)).Nodup) :
    (candidates tasks importance).Pairwise Before := by
  have differ :=
    List.pairwise_map.mp (Context.labels_candidates_nodup labels importance)
  apply ((candidates_pairwise tasks importance).and differ).imp
  intro left right both
  exact Candidate.order_eq_lt both.1 both.2

theorem retained_compute_iff_mem_walk (labels : (tasks.map (·.label)).Nodup)
    (member : candidate ∈ candidates tasks importance) :
    (compute tasks importance targets).retained.contains candidate.label =
      true ↔
      candidate ∈ walk targets [] (candidates tasks importance) := by
  simp only [compute, Names.contains_ofList, List.contains_iff_mem,
    List.mem_map]
  constructor
  · rintro ⟨other, retained, sameLabel⟩
    have otherMember := (walk_sublist targets _).subset retained
    have same : other = candidate :=
      List.inj_on_of_nodup_map
        (Context.labels_candidates_nodup labels importance)
        otherMember member sameLabel
    exact same ▸ retained
  · intro retained
    exact ⟨candidate, retained, rfl⟩

theorem retained_compute_iff (labels : (tasks.map (·.label)).Nodup)
    (member : candidate ∈ candidates tasks importance) :
    (compute tasks importance targets).retained.contains candidate.label =
      true ↔
      hasRoom targets
        (walk targets [] (earlier candidate (candidates tasks importance)))
          candidate = true := by
  rw [retained_compute_iff_mem_walk labels member,
    mem_walk_iff (candidates_pairwise_before labels) member]

theorem filter_retained_eq_walk (labels : (tasks.map (·.label)).Nodup) :
    ((candidates tasks importance).filter fun candidate =>
      (compute tasks importance targets).retained.contains candidate.label) =
        walk targets [] (candidates tasks importance) := by
  have sorted : (candidates tasks importance).Pairwise Before :=
    candidates_pairwise_before labels
  apply (sorted.filter _).eq_of_mem_iff
    (sorted.sublist (walk_sublist targets _))
  intro candidate
  rw [List.mem_filter]
  constructor
  · rintro ⟨member, retained⟩
    exact (retained_compute_iff_mem_walk labels member).mp retained
  · intro retained
    have member := (walk_sublist targets _).subset retained
    exact ⟨member, (retained_compute_iff_mem_walk labels member).mpr retained⟩

/-- A candidate is retained when the retained ones before it leave it room. -/
theorem retained_compute_eq_hasRoom (labels : (tasks.map (·.label)).Nodup)
    (member : candidate ∈ candidates tasks importance) :
    (compute tasks importance targets).retained.contains candidate.label =
      hasRoom targets
        (earlier candidate ((candidates tasks importance).filter fun other =>
        (compute tasks importance targets).retained.contains other.label))
          candidate := by
  rw [Bool.eq_iff_iff, retained_compute_iff labels member,
    filter_retained_eq_walk labels,
    walk_earlier (candidates_pairwise_before labels) member]

theorem earlier_candidates_eq (labels : (tasks.map (·.label)).Nodup)
    (otherLabels : (others.map (·.label)).Nodup)
    (coincide : ∀ other, Before other candidate →
      (other ∈ candidates tasks importance ↔
        other ∈ candidates others importance)) :
    earlier candidate (candidates tasks importance) =
      earlier candidate (candidates others importance) := by
  have sorted :
      (earlier candidate (candidates tasks importance)).Pairwise Before :=
    (candidates_pairwise_before labels).filter _
  have otherSorted :
      (earlier candidate (candidates others importance)).Pairwise Before :=
    (candidates_pairwise_before otherLabels).filter _
  apply sorted.eq_of_mem_iff otherSorted
  intro other
  simp only [earlier, List.mem_filter, decide_eq_true_eq]
  constructor
  · rintro ⟨member, before⟩
    exact ⟨(coincide other before).mp member, before⟩
  · rintro ⟨member, before⟩
    exact ⟨(coincide other before).mpr member, before⟩

/-- The decision on a candidate rests on the candidates that come before it. -/
theorem retained_compute_eq (labels : (tasks.map (·.label)).Nodup)
    (otherLabels : (others.map (·.label)).Nodup)
    (member : candidate ∈ candidates tasks importance)
    (otherMember : candidate ∈ candidates others importance)
    (coincide : ∀ other, Before other candidate →
      (other ∈ candidates tasks importance ↔
        other ∈ candidates others importance)) :
    (compute tasks importance targets).retained.contains candidate.label =
      (compute others importance targets).retained.contains
        candidate.label := by
  rw [Bool.eq_iff_iff, retained_compute_iff labels member,
    retained_compute_iff otherLabels otherMember,
    earlier_candidates_eq labels otherLabels coincide]

/-- A plan rests on which candidates there are, in whatever order their tasks
are listed. -/
theorem compute_eq (labels : (tasks.map (·.label)).Nodup)
    (otherLabels : (others.map (·.label)).Nodup)
    (coincide : ∀ candidate,
      candidate ∈ candidates others importance ↔
        candidate ∈ candidates tasks importance) :
    compute others importance targets = compute tasks importance targets := by
  have same : candidates others importance = candidates tasks importance :=
    (candidates_pairwise_before otherLabels).eq_of_mem_iff
      (candidates_pairwise_before labels)
      coincide
  rw [compute, compute, same]

theorem mem_candidates_of_mem (member : candidate ∈ candidates tasks importance)
    (kept : ∀ task ∈ tasks,
      task ∉ others → Candidate.ofTask? importance task ≠ some candidate) :
    candidate ∈ candidates others importance := by
  obtain ⟨task, listed, made⟩ := mem_candidates.mp member
  apply mem_candidates.mpr
  refine ⟨task, ?_, made⟩
  by_contra dropped
  exact kept task listed dropped made

theorem compute_eq_of_perm (labels : (tasks.map (·.label)).Nodup)
    (permuted : others.Perm tasks) :
    compute others importance targets = compute tasks importance targets := by
  apply compute_eq labels ((permuted.map (·.label)).nodup_iff.mpr labels)
  intro candidate
  simp only [mem_candidates, permuted.mem_iff]

theorem compute_eq_of_idle (labels : (tasks.map (·.label)).Nodup)
    (otherLabels : (others.map (·.label)).Nodup)
    (idle : ∀ task, ¬ (task ∈ tasks ↔ task ∈ others) →
      Candidate.ofTask? importance task = none) :
    compute others importance targets = compute tasks importance targets := by
  have unmade : ∀ candidate task, ¬ (task ∈ tasks ↔ task ∈ others) →
      Candidate.ofTask? importance task ≠ some candidate := by
    intro candidate task differs
    rw [idle task differs]
    exact (Option.some_ne_none candidate).symm
  apply compute_eq labels otherLabels
  intro candidate
  constructor
  · intro member
    apply mem_candidates_of_mem member
    intro task listed absent
    exact unmade candidate task fun same => absent (same.mpr listed)
  · intro member
    apply mem_candidates_of_mem member
    intro task listed absent
    exact unmade candidate task fun same => absent (same.mp listed)

theorem retained_compute_eq_of_later (labels : (tasks.map (·.label)).Nodup)
    (otherLabels : (others.map (·.label)).Nodup)
    (member : candidate ∈ candidates tasks importance) (kept : tasks ⊆ others)
    (later : ∀ task ∈ others, task ∉ tasks →
      ∀ added, Candidate.ofTask? importance task = some added →
        Before candidate added) :
    (compute tasks importance targets).retained.contains candidate.label =
      (compute others importance targets).retained.contains
        candidate.label := by
  have stays : ∀ other ∈ candidates tasks importance,
      other ∈ candidates others importance := by
    intro other otherMember
    apply mem_candidates_of_mem otherMember
    intro task listed absent
    exact (absent (kept listed)).elim
  apply retained_compute_eq labels otherLabels member (stays candidate member)
  intro other before
  constructor
  · exact stays other
  · intro otherMember
    apply mem_candidates_of_mem otherMember
    intro task listed absent made
    exact (later task listed absent other made).not_before before

/-- A candidate is retained when the retained ones before it leave it room.  So
the decision is the same for all tasks that agree on the candidates up to it,
and neither the order of the tasks nor tasks that are no candidates nor
candidates that come later ever change it. -/
theorem compute_local (labels : (tasks.map (·.label)).Nodup)
    (importance : Table String Importance) (targets : Targets) :
    (∀ candidate ∈ candidates tasks importance,
      (compute tasks importance targets).retained.contains candidate.label =
        hasRoom targets
          (earlier candidate ((candidates tasks importance).filter fun other =>
          (compute tasks importance targets).retained.contains other.label))
            candidate) ∧
    (∀ candidate ∈ candidates tasks importance,
      ∀ others : List Task, (others.map (·.label)).Nodup →
      (∀ other, Candidate.precedes other candidate = true →
        (other ∈ candidates tasks importance ↔
          other ∈ candidates others importance)) →
      (compute tasks importance targets).retained.contains candidate.label =
        (compute others importance targets).retained.contains candidate.label) ∧
    (∀ others : List Task, others.Perm tasks →
      compute others importance targets = compute tasks importance targets) ∧
    (∀ others : List Task, (others.map (·.label)).Nodup →
      (∀ task, ¬ (task ∈ tasks ↔ task ∈ others) →
        task.attributes.platform = none ∨
          ∀ group ∈ task.manifests, importance.find? group = none) →
      compute others importance targets = compute tasks importance targets) ∧
    ∀ candidate ∈ candidates tasks importance,
      ∀ others : List Task, (others.map (·.label)).Nodup → tasks ⊆ others →
      (∀ task ∈ others, task ∉ tasks →
        ∀ added, Candidate.ofTask? importance task = some added →
          Before candidate added) →
      (compute tasks importance targets).retained.contains candidate.label =
        (compute others importance targets).retained.contains
          candidate.label := by
  refine ⟨?_, ?_, ?_, ?_, ?_⟩
  · intro candidate member
    exact retained_compute_eq_hasRoom labels member
  · intro candidate member others otherLabels coincide
    have self : Candidate.precedes candidate candidate = true := by
      simpa using Candidate.precedes_total candidate candidate
    apply retained_compute_eq labels otherLabels member
      ((coincide candidate self).mp member)
    intro other before
    exact coincide other before.precedes
  · intro others permuted
    exact compute_eq_of_perm labels permuted
  · intro others otherLabels idle
    apply compute_eq_of_idle labels otherLabels
    intro task differs
    exact Candidate.ofTask?_eq_none (idle task differs)
  · intro candidate member others otherLabels kept later
    exact retained_compute_eq_of_later labels otherLabels member kept later

/-- Tasks of one configuration: neither their order nor one without important
groups changes the plan, and the decision on the first is the same whichever of
them come later. -/
theorem compute_local_of_runners :
    let importance := Table.ofList [("group", Importance.low)]
    let runner := Context.runnerNamed
    compute [runner "b", runner "a"] importance {} =
        compute [runner "a", runner "b"] importance {} ∧
      compute [runner "a", { label := "idle" }, runner "b"] importance {} =
        compute [runner "a", runner "b"] importance {} ∧
      (compute [runner "a", runner "b"] importance {}).retained.contains "a" =
        (compute [runner "c", runner "a"] importance {}).retained.contains "a" ∧
      (compute [runner "a", runner "b"] importance {}).retained.contains "a" =
        (compute [runner "c", runner "a", runner "b"] importance
          {}).retained.contains "a" := by
  intro importance runner
  let candidate (label : String) : Candidate :=
    { label, platform := "linux", variant := "", multiProcess := true,
      groups := [("group", .low)] }
  have made (label : String) :
      Candidate.ofTask? importance (runner label) = some (candidate label) :=
    rfl
  have labels : ([runner "a", runner "b"].map (·.label)).Nodup := by decide
  have member :
      candidate "a" ∈ candidates [runner "a", runner "b"] importance :=
    mem_candidates.mpr ⟨runner "a", by simp, made "a"⟩
  obtain ⟨_, agreeing, permuted, idle, later⟩ :=
    compute_local labels importance {}
  refine ⟨?_, ?_, ?_, ?_⟩
  · exact permuted [runner "b", runner "a"]
      (List.Perm.swap (runner "a") (runner "b") [])
  · apply idle [runner "a", { label := "idle" }, runner "b"] (by decide)
    intro task differs
    have same : task = { label := "idle" } := by
      by_contra other
      exact differs (by simp [other])
    subst same
    exact .inl rfl
  · apply agreeing (candidate "a") member [runner "c", runner "a"] (by decide)
    intro other upTo
    have differs (label : String)
        (after : Candidate.precedes (candidate label) (candidate "a") = false) :
        candidate label ≠ other := by
      rintro rfl
      exact Bool.false_ne_true (after.symm.trans upTo)
    simp [mem_candidates, made, differs "b" (by decide),
      differs "c" (by decide)]
  · apply later (candidate "a") member [runner "c", runner "a", runner "b"]
      (by decide)
    · simp
    · intro task listed added other isOther
      have same : task = runner "c" := by
        rcases List.mem_cons.mp listed with isNew | isOld
        · exact isNew
        · exact (added isOld).elim
      subst same
      rw [made, Option.some.injEq] at isOther
      subst isOther
      decide

end Plan

end TaskSieve
