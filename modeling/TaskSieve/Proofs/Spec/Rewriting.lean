import TaskSieve.Proofs.Spec.Building
import TaskSieve.Proofs.Strategy.Asking

/-!
# De Morgan's laws for composition trees

A negated disjunction asks its children in the same order, and stops at the
same child, as the conjunction of the negated children.  So rewriting a tree by
De Morgan's laws and double negation changes neither a decision nor what is
done on the way to it, whatever the strategies in the tree do.  Only composites
with children are rewritten: one without children keeps, negated or not.
-/

namespace TaskSieve

namespace Strategy

variable {question : Question} {child other : Strategy} {rest : List Strategy}

theorem decide_not_not (question : Question) (child : Strategy) :
    (Strategy.not (.not child)).decide question = child.decide question := by
  funext state
  rw [decide_not_apply, decide_not_apply]
  cases child.decide question state with
  | mk answer after => cases answer with
    | error failure => rfl
    | ok removes => simp [Except.map]

/-- Negated children are asked like the children themselves, for the other
vote. -/
theorem askUntil_map_not (stop : Bool) (children : List Strategy)
    (state : State) :
    Step.askUntil (!stop) ((children.map Strategy.not).map fun child =>
      child.decide question)
        state =
      ((Step.askUntil stop (children.map fun child => child.decide question)
        state).1.map (! ·),
        (Step.askUntil stop (children.map fun child => child.decide question)
          state).2) := by
  induction children generalizing state with
  | nil => rfl
  | cons child rest induction =>
      rw [List.map_cons, List.map_cons, List.map_cons]
      have negated := decide_not_apply question child state
      cases answered : child.decide question state with
      | mk answer after =>
          rw [answered] at negated
          cases answer with
          | error failure =>
              rw [Step.askUntil_fails _ negated, Step.askUntil_fails _ answered]
              rfl
          | ok vote =>
              by_cases stopped : vote = stop
              · subst stopped
                rw [Step.askUntil_stops _ negated,
                  Step.askUntil_stops _ answered]
                rfl
              · obtain rfl : vote = !stop := Bool.eq_not.mpr stopped
                rw [Step.askUntil_passes _ negated,
                  Step.askUntil_passes _ answered, induction]

theorem decide_not_any (question : Question) (child : Strategy)
    (rest : List Strategy) :
    (Strategy.not (.any (child :: rest))).decide question =
      (Strategy.all ((child :: rest).map .not)).decide question := by
  funext state
  rw [decide_not_apply, List.map_cons, decide_all_cons, decide,
    decideAny_eq_askUntil, decideAll_eq_askUntil]
  exact (askUntil_map_not true (child :: rest) state).symm

theorem decide_not_all (question : Question) (child : Strategy)
    (rest : List Strategy) :
    (Strategy.not (.all (child :: rest))).decide question =
      (Strategy.any ((child :: rest).map .not)).decide question := by
  funext state
  rw [decide_not_apply, decide_all_cons, decideAll_eq_askUntil, decide,
    decideAny_eq_askUntil]
  exact (askUntil_map_not false (child :: rest) state).symm

section Congruence

variable (same : child.decide question = other.decide question)

include same

theorem map_decide_congr (front back : List Strategy) :
    (front ++ child :: back).map (fun child => child.decide question) =
      (front ++ other :: back).map fun child => child.decide question := by
  rw [List.map_append, List.map_append, List.map_cons, List.map_cons, same]

theorem decideAny_congr (front back : List Strategy) :
    decideAny question (front ++ child :: back) =
      decideAny question (front ++ other :: back) := by
  rw [decideAny_eq_askUntil, decideAny_eq_askUntil, map_decide_congr same]

theorem decideAll_congr (front back : List Strategy) :
    decideAll question (front ++ child :: back) =
      decideAll question (front ++ other :: back) := by
  rw [decideAll_eq_askUntil, decideAll_eq_askUntil, map_decide_congr same]

theorem decide_all_congr (front back : List Strategy) :
    (Strategy.all (front ++ child :: back)).decide question =
      (Strategy.all (front ++ other :: back)).decide question := by
  have congruent := decideAll_congr same front back
  cases front with
  | nil => exact congruent
  | cons first rest => exact congruent

end Congruence

end Strategy

namespace Spec

/-- Trees that De Morgan's laws and double negation turn into one another, at
any place. -/
inductive Rewrites : Spec → Spec → Prop where
  | refl (spec : Spec) : Rewrites spec spec
  | symm {left right : Spec} : Rewrites left right → Rewrites right left
  | trans {left middle right : Spec} :
      Rewrites left middle → Rewrites middle right → Rewrites left right
  | notNot (child : Spec) : Rewrites (.not (.not child)) child
  | notAny (child : Spec) (rest : List Spec) :
      Rewrites (.not (.any (child :: rest))) (.all ((child :: rest).map .not))
  | notAll (child : Spec) (rest : List Spec) :
      Rewrites (.not (.all (child :: rest))) (.any ((child :: rest).map .not))
  | inAny (front back : List Spec) {child other : Spec} :
      Rewrites child other →
      Rewrites (.any (front ++ child :: back)) (.any (front ++ other :: back))
  | inAll (front back : List Spec) {child other : Spec} :
      Rewrites child other →
      Rewrites (.all (front ++ child :: back)) (.all (front ++ other :: back))
  | inNot {child other : Spec} : Rewrites child other →
    Rewrites (.not child) (.not other)

theorem flatMap_names_map_not (children : List Spec) :
    (children.map Spec.not).flatMap names = children.flatMap names := by
  simp [List.flatMap_map, names]

theorem assemble_map_not (pick : String → Strategy) (children : List Spec) :
    (children.map Spec.not).map (assemble pick) =
      (children.map (assemble pick)).map Strategy.not := by
  simp [assemble]

namespace Rewrites

variable {left right : Spec}

/-- Rewriting keeps the names of a tree and their order. -/
theorem names_eq (rewrites : Rewrites left right) :
    left.names = right.names := by
  induction rewrites with
  | refl spec => rfl
  | symm _ same => exact same.symm
  | trans _ _ first second => exact first.trans second
  | notNot child => simp only [names]
  | notAny child rest =>
      simp only [names, namesOfAll_eq_flatMap, flatMap_names_map_not]
  | notAll child rest =>
      simp only [names, namesOfAll_eq_flatMap, flatMap_names_map_not]
  | inAny front back _ same => simp [names, namesOfAll_eq_flatMap, same]
  | inAll front back _ same => simp [names, namesOfAll_eq_flatMap, same]
  | inNot _ same => simpa only [names] using same

/-- Rewriting changes no decision and nothing that is done on the way to it. -/
theorem decide_eq (rewrites : Rewrites left right) (pick : String → Strategy)
    (question : Question) :
    (left.assemble pick).decide question =
      (right.assemble pick).decide question := by
  induction rewrites with
  | refl spec => rfl
  | symm _ same => exact same.symm
  | trans _ _ first second => exact first.trans second
  | notNot child => exact Strategy.decide_not_not question (child.assemble pick)
  | notAny child rest =>
      simp only [assemble, assembleAll_eq_map, assemble_map_not]
      exact Strategy.decide_not_any question (child.assemble pick)
        (rest.map (assemble pick))
  | notAll child rest =>
      simp only [assemble, assembleAll_eq_map, assemble_map_not]
      exact Strategy.decide_not_all question (child.assemble pick)
        (rest.map (assemble pick))
  | inAny front back _ same =>
      simp only [assemble, assembleAll_eq_map, List.map_append, List.map_cons,
        Strategy.decide]
      exact Strategy.decideAny_congr same _ _
  | inAll front back _ same =>
      simp only [assemble, assembleAll_eq_map, List.map_append, List.map_cons]
      exact Strategy.decide_all_congr same _ _
  | inNot _ same => simp only [assemble, Strategy.decide, same]

end Rewrites

end Spec

end TaskSieve
