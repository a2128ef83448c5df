import Mathlib.Data.List.Perm.Subperm
import TaskSieve.Dispersal

/-!
# What the walk of a plan retains and rejects

The walk only ever appends to what it has retained, so the candidates retained
up to some place are a front part of those retained in the end.  A rejected
candidate is rejected at its own place: every group that it runs has at that
place used up its room, and all who used it come earlier in the order.
-/

namespace TaskSieve

open Std

namespace Candidate

/-- Whether a candidate runs a group. -/
def runs (candidate : Candidate) (group : String) : Bool :=
  candidate.groups.any fun listed => listed.1 == group

instance : TransCmp order :=
  inferInstanceAs (TransCmp (compareLex (compareOn rank)
    (compareLex (compareOn platform)
      (compareLex (compareOn variant) (compareOn label)))))

theorem label_eq_of_order_eq {left right : Candidate}
    (equal : order left right = .eq) : left.label = right.label := by
  have parts :
      (compareOn rank left right).then ((compareOn platform left right).then
      ((compareOn variant left right).then (compareOn label left right))) =
        .eq := equal
  simp only [Ordering.then_eq_eq] at parts
  exact LawfulEqOrd.eq_of_compare parts.2.2.2

theorem precedes_trans (first second third : Candidate)
    (left : precedes first second = true)
    (right : precedes second third = true) : precedes first third = true :=
  TransCmp.isLE_trans left right

theorem precedes_total (left right : Candidate) :
    (precedes left right || precedes right left) = true := by
  have swapped : order right left = (order left right).swap :=
    OrientedCmp.eq_swap
  unfold precedes
  rw [swapped]
  cases order left right <;> rfl

theorem order_eq_lt {left right : Candidate}
    (ordered : precedes left right = true) (differ : left.label ≠ right.label) :
    order left right = .lt := by
  cases compared : order left right with
  | lt => rfl
  | eq => exact (differ (label_eq_of_order_eq compared)).elim
  | gt => simp [precedes, compared] at ordered

theorem occurrences_eq_zero {candidate : Candidate} {group : String}
    (absent : candidate.runs group = false) :
    candidate.occurrences group = 0 := by
  simp only [runs, List.any_eq_false] at absent
  simp only [occurrences, List.length_eq_zero_iff, List.filter_eq_nil_iff]
  exact absent

theorem occurrences_pos {candidate : Candidate} {listed : String × Importance}
    (member : listed ∈ candidate.groups) :
    0 < candidate.occurrences listed.1 := by
  apply List.length_pos_of_mem
  exact List.mem_filter.mpr ⟨member, beq_self_eq_true listed.1⟩

theorem occurrences_eq_one {candidate : Candidate} {group : String}
    (distinct : (candidate.groups.map (·.1)).Nodup)
    (present : candidate.runs group = true) :
    candidate.occurrences group = 1 := by
  have counted : candidate.occurrences group =
      (candidate.groups.map (·.1)).count group := by
    rw [occurrences, ← List.countP_eq_length_filter, List.count,
      List.countP_map]
    rfl
  have member : group ∈ candidate.groups.map (·.1) := by
    simp only [runs, List.any_eq_true, beq_iff_eq] at present
    obtain ⟨listed, listedMember, same⟩ := present
    exact List.mem_map.mpr ⟨listed, listedMember, same⟩
  rw [counted, distinct.count, if_pos member]

end Candidate

/-- Whether a word holds how often a group of some importance may be listed when
it is new to a configuration. -/
def Targets.Fits (targets : Targets) (level : Importance) : Prop :=
  (targets.count level).toNat + targets.unseen.toNat < Word.count

instance (targets : Targets) (level : Importance) :
    Decidable (targets.Fits level) :=
  inferInstanceAs (Decidable (_ < _))

namespace Plan

variable {targets : Targets}

theorem toNat_limit_of_fits {retained : List Candidate}
    {configuration group : String} {level : Importance}
    (fits : targets.Fits level) :
    (limit targets retained configuration (group, level)).toNat =
      (targets.count level).toNat +
        if covers retained group configuration then 0
        else targets.unseen.toNat := by
  unfold limit
  split
  · rw [UInt64.add_zero, Nat.add_zero]
  · exact Word.toNat_add_of_lt fits

theorem taken_eq_length_filter {retained : List Candidate}
    (distinct : ∀ candidate ∈ retained, (candidate.groups.map (·.1)).Nodup)
    (group : String) :
    taken retained group =
      (retained.filter fun candidate => candidate.runs group).length := by
  induction retained with
  | nil => rfl
  | cons candidate rest induction =>
      have tail :=
        induction fun other member => distinct other (by simp [member])
      cases runs : candidate.runs group with
      | false => simp [taken, tail, runs, Candidate.occurrences_eq_zero runs]
      | true =>
          have once :=
            Candidate.occurrences_eq_one (distinct candidate (by simp)) runs
          simp [taken, tail, runs, once, Nat.add_comm]

theorem taken_append (front back : List Candidate) (group : String) :
    taken (front ++ back) group = taken front group + taken back group := by
  induction front with
  | nil => simp [taken]
  | cons candidate rest induction => simp [taken, induction, Nat.add_assoc]

theorem walk_append (targets : Targets) (retained front back : List Candidate) :
    walk targets retained (front ++ back) =
      walk targets (walk targets retained front) back := by
  induction front generalizing retained with
  | nil => rfl
  | cons candidate rest induction =>
      by_cases room : hasRoom targets retained candidate = true
      · simp [walk, room, induction]
      · simp [walk, room, induction]

theorem walk_concat (targets : Targets) (front : List Candidate)
    (candidate : Candidate) :
    walk targets [] (front ++ [candidate]) =
      if hasRoom targets (walk targets [] front) candidate then
        walk targets [] front ++ [candidate]
      else walk targets [] front :=
  walk_append targets [] front [candidate]

theorem walk_eq_append (targets : Targets) (retained rest : List Candidate) :
    ∃ later, later.Sublist rest ∧ walk targets retained rest =
      retained ++ later := by
  induction rest generalizing retained with
  | nil => exact ⟨[], List.Sublist.refl [], by simp [walk]⟩
  | cons candidate rest induction =>
      by_cases room : hasRoom targets retained candidate = true
      · obtain ⟨later, sublist, equality⟩ := induction (retained ++ [candidate])
        refine ⟨candidate :: later, sublist.cons_cons candidate, ?_⟩
        simp [walk, room, equality]
      · obtain ⟨later, sublist, equality⟩ := induction retained
        refine ⟨later, sublist.cons candidate, ?_⟩
        simp [walk, room, equality]

theorem walk_sublist (targets : Targets) (ordered : List Candidate) :
    (walk targets [] ordered).Sublist ordered := by
  obtain ⟨later, sublist, equality⟩ := walk_eq_append targets [] ordered
  rw [equality]
  exact sublist

/-- A rejected candidate found no room after the ones retained before its
place, and those stay retained. -/
theorem walk_rejects {ordered : List Candidate} {candidate : Candidate}
    (member : candidate ∈ ordered)
    (rejected : candidate ∉ walk targets [] ordered) :
    ∃ front back, ordered = front ++ candidate :: back ∧
      hasRoom targets (walk targets [] front) candidate = false ∧
      (walk targets [] front).Sublist (walk targets [] ordered) := by
  obtain ⟨front, back, rfl⟩ := List.append_of_mem member
  refine ⟨front, back, rfl, ?_, ?_⟩
  · by_contra room
    rw [Bool.not_eq_false] at room
    apply rejected
    obtain ⟨later, _, equality⟩ :=
      walk_eq_append targets (walk targets [] front ++ [candidate]) back
    rw [walk_append, walk, if_pos room, equality]
    simp
  · obtain ⟨later, _, equality⟩ :=
      walk_eq_append targets (walk targets [] front) (candidate :: back)
    rw [walk_append, equality]
    exact List.sublist_append_left _ _

theorem limit_le_taken_of_hasRoom_eq_false {retained : List Candidate}
    {candidate : Candidate} (full : hasRoom targets retained candidate = false)
    {listed : String × Importance} (member : listed ∈ candidate.groups) :
    (limit targets retained candidate.configuration listed).toNat ≤
      taken retained listed.1 := by
  simp only [hasRoom, List.any_eq_false, decide_eq_true_eq, Nat.not_lt] at full
  exact full listed member

theorem candidates_pairwise (tasks : List Task)
    (importance : Table String Importance) :
    (candidates tasks importance).Pairwise fun left right =>
      Candidate.precedes left right :=
  List.pairwise_mergeSort Candidate.precedes_trans Candidate.precedes_total _

theorem mem_candidates {tasks : List Task}
    {importance : Table String Importance} {candidate : Candidate} :
    candidate ∈ candidates tasks importance ↔
      ∃ task ∈ tasks, Candidate.ofTask? importance task = some candidate := by
  simp [candidates, List.mem_filterMap]

/-- Candidates that are listed one before the other with different labels are in
strict order. -/
theorem order_lt_of_front {front back : List Candidate}
    {candidate other : Candidate}
    (sorted : (front ++ candidate :: back).Pairwise fun left right =>
      Candidate.precedes left right = true)
    (labels : ((front ++ candidate :: back).map (·.label)).Nodup)
    (inFront : other ∈ front) : Candidate.order other candidate = .lt := by
  have precedes : Candidate.precedes other candidate = true :=
    (List.pairwise_append.mp sorted).2.2 other inFront candidate (by simp)
  have differ : other.label ≠ candidate.label := by
    rw [List.map_append] at labels
    exact (List.nodup_append.mp labels).2.2 other.label
      (List.mem_map_of_mem inFront)
      candidate.label (by simp)
  exact Candidate.order_eq_lt precedes differ

/-- Each group of a rejected candidate is run by as many retained candidates
before it as the importance of the group asks for, and by more of them unless
one has the same configuration. -/
theorem walk_redundant {ordered : List Candidate} {candidate : Candidate}
    {group : String} {level : Importance}
    (sorted :
      ordered.Pairwise fun left right => Candidate.precedes left right = true)
    (labels : (ordered.map (·.label)).Nodup)
    (distinct : ∀ candidate ∈ ordered, (candidate.groups.map (·.1)).Nodup)
    (member : candidate ∈ ordered)
    (rejected : candidate ∉ walk targets [] ordered)
    (listed : (group, level) ∈ candidate.groups) (fits : targets.Fits level) :
    ∃ kept : List Candidate, kept.Sublist (walk targets [] ordered) ∧
      (∀ other ∈ kept,
        other.runs group = true ∧ Candidate.order other candidate = .lt) ∧
      (targets.count level).toNat ≤ kept.length ∧
      ((∃ other ∈ kept, other.configuration = candidate.configuration) ∨
        (targets.count level).toNat + targets.unseen.toNat ≤ kept.length) := by
  obtain ⟨front, back, rfl, full, stays⟩ := walk_rejects member rejected
  have early : ∀ other ∈ walk targets [] front, other ∈ front :=
    fun other retained =>
    (walk_sublist targets front).subset retained
  have counted : taken (walk targets [] front) group =
      ((walk targets [] front).filter fun other =>
        other.runs group).length := by
    apply taken_eq_length_filter
    intro other retained
    exact distinct other (by simp [early other retained])
  have limited : (targets.count level).toNat +
      (if covers (walk targets [] front) group candidate.configuration then 0
        else targets.unseen.toNat) ≤
      ((walk targets [] front).filter fun other =>
        other.runs group).length := by
    rw [← counted, ← toNat_limit_of_fits fits]
    exact limit_le_taken_of_hasRoom_eq_false full listed
  refine ⟨(walk targets [] front).filter fun other => other.runs group,
    List.filter_sublist.trans stays, ?_,
    Nat.le_trans (Nat.le_add_right _ _) limited, ?_⟩
  · intro other kept
    obtain ⟨retained, runs⟩ := List.mem_filter.mp kept
    exact ⟨runs, order_lt_of_front sorted labels (early other retained)⟩
  · by_cases covered :
        covers (walk targets [] front) group candidate.configuration = true
    · left
      simp only [covers, List.any_eq_true, Bool.and_eq_true, beq_iff_eq]
          at covered
      obtain ⟨other, retained, same, runs⟩ := covered
      have runsGroup : other.runs group = true := by
        simpa [Candidate.runs] using runs
      exact ⟨other, List.mem_filter.mpr ⟨retained, runsGroup⟩, same⟩
    · right
      simpa [covered] using limited

end Plan

end TaskSieve
