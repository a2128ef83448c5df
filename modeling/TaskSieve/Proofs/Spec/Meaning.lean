import TaskSieve.Proofs.Config.Validity
import TaskSieve.Proofs.Spec.Rewriting
import TaskSieve.Strategy.Given

/-!
# What a composition tree means

`Spec.Decides` tells by rules which leaves of a tree are asked, in which order,
and what the tree answers.  It speaks of trees of names alone, not of the
strategies that are built from them.  A built strategy does what the rules say,
and nothing else: the rules allow one way only.

Leaves are told apart by their places, since one name may stand in a tree twice
and vote differently the second time.  As long as no leaf fails, a tree whose
composites all have children answers its value in Boolean algebra.  Composites
without children keep, so the empty conjunction is an exception; a valid
configuration has none.
-/

namespace TaskSieve

namespace Spec

/-- A leaf that was asked: which one of a tree, counted from the left, its name,
and its answer. -/
structure Asked where
  place : Nat
  name : String
  answer : Except Failure Bool

section Rules

variable (leaf : String → Step Bool)

mutual

/-- A tree whose first leaf has this place, asked in a state, asks these leaves,
gives this answer and leaves this state behind. -/
inductive Decides : Nat → Spec → State → List Asked → Except Failure Bool →
    State → Prop where
  | named {first : Nat} {name : String} {state after : State}
    {answer : Except Failure Bool} :
      leaf name state = (answer, after) →
      Decides first (.named name) state [⟨first, name, answer⟩] answer after
  | any {first : Nat} {children : List Spec} {state after : State}
    {asked : List Asked}
      {answer : Except Failure Bool} :
      DecidesUntil true first children state asked answer after →
      Decides first (.any children) state asked answer after
  | allOfNone {first : Nat} {state : State} :
      Decides first (.all []) state [] (.ok false) state
  | all {first : Nat} {child : Spec} {rest : List Spec} {state after : State}
      {asked : List Asked} {answer : Except Failure Bool} :
      DecidesUntil false first (child :: rest) state asked answer after →
      Decides first (.all (child :: rest)) state asked answer after
  | notVote {first : Nat} {child : Spec} {state after : State}
    {asked : List Asked}
      {vote : Bool} :
      Decides first child state asked (.ok vote) after →
      Decides first (.not child) state asked (.ok !vote) after
  | notFailed {first : Nat} {child : Spec} {state after : State}
    {asked : List Asked}
      {failure : Failure} :
      Decides first child state asked (.error failure) after →
      Decides first (.not child) state asked (.error failure) after

/-- Trees are asked from left to right, up to the first that fails or gives a
certain vote; after the last the answer is the other vote. -/
inductive DecidesUntil : Bool → Nat → List Spec → State → List Asked →
    Except Failure Bool →
    State → Prop where
  | nil {stop : Bool} {first : Nat} {state : State} :
      DecidesUntil stop first [] state [] (.ok !stop) state
  | stops {stop : Bool} {first : Nat} {child : Spec} {rest : List Spec}
    {state after : State}
      {asked : List Asked} :
      Decides first child state asked (.ok stop) after →
      DecidesUntil stop first (child :: rest) state asked (.ok stop) after
  | fails {stop : Bool} {first : Nat} {child : Spec} {rest : List Spec}
    {state after : State}
      {asked : List Asked} {failure : Failure} :
      Decides first child state asked (.error failure) after →
      DecidesUntil stop first (child :: rest) state asked (.error failure) after
  | passes {stop : Bool} {first : Nat} {child : Spec} {rest : List Spec}
      {state between after : State} {asked more : List Asked}
        {answer : Except Failure Bool} :
      Decides first child state asked (.ok !stop) between →
      DecidesUntil stop (first + child.names.length) rest between more
        answer after →
      DecidesUntil stop first (child :: rest) state (asked ++ more) answer after

end

end Rules

/-- Asks leaves one after the other, whatever they answer. -/
def consult (leaf : String → Step Bool) :
    List String → State → List (Except Failure Bool) × State
  | [], state => ([], state)
  | name :: rest, state =>
      let (answer, after) := leaf name state
      let (answers, last) := consult leaf rest after
      (answer :: answers, last)

theorem consult_append (leaf : String → Step Bool) (front back : List String)
    (state : State) :
    consult leaf (front ++ back) state =
      let (answers, between) := consult leaf front state
      let (more, after) := consult leaf back between
      (answers ++ more, after) := by
  induction front generalizing state with
  | nil => rfl
  | cons name rest induction => simp only [List.cons_append, consult, induction]

mutual

/-- The value in Boolean algebra of a tree whose first leaf has this place,
where the leaves have these values by place. -/
def value (votes : Nat → Bool) : Nat → Spec → Bool
  | first, .named _ => votes first
  | first, .any children => someValue votes first children
  | first, .all children => everyValue votes first children
  | first, .not child => !child.value votes first

/-- The disjunction of several trees. -/
def someValue (votes : Nat → Bool) : Nat → List Spec → Bool
  | _, [] => false
  | first, child :: rest =>
      child.value votes first ||
        someValue votes (first + child.names.length) rest

/-- The conjunction of several trees. -/
def everyValue (votes : Nat → Bool) : Nat → List Spec → Bool
  | _, [] => true
  | first, child :: rest =>
      child.value votes first &&
        everyValue votes (first + child.names.length) rest

end

/-- No leaf that was asked failed, and these are the votes. -/
def VotedAs (votes : Nat → Bool) (asked : List Asked) : Prop :=
  ∀ entry ∈ asked, entry.answer = .ok (votes entry.place)

mutual

/-- A tree whose composites all have children. -/
def IsFilled : Spec → Prop
  | .named _ => True
  | .any children => children ≠ [] ∧ AllFilled children
  | .all children => children ≠ [] ∧ AllFilled children
  | .not child => child.IsFilled

/-- Several trees of that kind. -/
def AllFilled : List Spec → Prop
  | [] => True
  | child :: rest => child.IsFilled ∧ AllFilled rest

end

theorem isFilled_not {child : Spec} : (Spec.not child).IsFilled ↔
      child.IsFilled := Iff.rfl

mutual

theorem isFilled_of_fault? {spec : Spec} (faultless : spec.fault? = none) :
    spec.IsFilled := by
  cases spec with
  | named name => trivial
  | any children => exact filled_of_faultOfChildren? faultless
  | all children => exact filled_of_faultOfChildren? faultless
  | not child =>
      have faultlessChild : child.fault? = none := faultless
      exact isFilled_not.mpr (isFilled_of_fault? faultlessChild)

theorem filled_of_faultOfChildren? {children : List Spec}
    (faultless : faultOfChildren? children = none) :
    children ≠ [] ∧ AllFilled children := by
  cases children with
  | nil => cases faultless
  | cons child rest =>
      rw [faultOfChildren?] at faultless
      cases fault : child.fault? with
      | some fault =>
          rw [fault] at faultless
          cases faultless
      | none =>
          rw [fault] at faultless
          exact ⟨nofun, isFilled_of_fault? fault,
            allFilled_of_firstFault? faultless⟩

theorem allFilled_of_firstFault? {children : List Spec}
    (faultless : firstFault? children = none) : AllFilled children := by
  cases children with
  | nil => trivial
  | cons child rest =>
      rw [firstFault?] at faultless
      cases fault : child.fault? with
      | some fault =>
          rw [fault] at faultless
          cases faultless
      | none =>
          rw [fault] at faultless
          exact ⟨isFilled_of_fault? fault, allFilled_of_firstFault? faultless⟩

end

section Facts

variable {leaf : String → Step Bool}

mutual

/-- The leaves that a tree asks, asked in that order, answer as noted and leave
the same state. -/
theorem Decides.consult_eq {first : Nat} {spec : Spec} {state after : State}
    {asked : List Asked} {answer : Except Failure Bool}
    (decides : spec.Decides leaf first state asked answer after) :
    consult leaf (asked.map (·.name)) state =
      (asked.map (·.answer), after) := by
  cases decides with
  | named answered => simp [consult, answered]
  | any children => exact children.consult_eq
  | allOfNone => rfl
  | all children => exact children.consult_eq
  | notVote child => exact child.consult_eq
  | notFailed child => exact child.consult_eq

theorem DecidesUntil.consult_eq {stop : Bool} {first : Nat}
    {children : List Spec} {state after : State} {asked : List Asked}
    {answer : Except Failure Bool}
    (decides : DecidesUntil leaf stop first children state asked answer after) :
    consult leaf (asked.map (·.name)) state =
      (asked.map (·.answer), after) := by
  cases decides with
  | nil => rfl
  | stops child => exact child.consult_eq
  | fails child => exact child.consult_eq
  | passes child rest =>
      simp only [List.map_append, consult_append, child.consult_eq,
        rest.consult_eq]

end

/-- Leaves that stand in a list of names, whose first has this place, in the
order of their places. -/
structure Placed (first : Nat) (names : List String) (asked : List Asked) :
    Prop where
  increasing : asked.Pairwise fun left right => left.place < right.place
  named : ∀ entry ∈ asked, ∃ offset, entry.place = first + offset ∧
    names[offset]? = some entry.name

namespace Placed

variable {first : Nat} {names : List String} {asked : List Asked}

theorem nil : Placed first names [] := ⟨.nil, by simp⟩

theorem append {moreNames : List String} {more : List Asked}
    (placed : Placed first names asked)
    (placedMore : Placed (first + names.length) moreNames more) :
    Placed first (names ++ moreNames) (asked ++ more) where
  increasing := by
    refine List.pairwise_append.mpr
      ⟨placed.increasing, placedMore.increasing, ?_⟩
    intro left member right memberMore
    obtain ⟨offset, place, here⟩ := placed.named left member
    obtain ⟨later, placeLater, _⟩ := placedMore.named right memberMore
    have inside := (List.getElem?_eq_some_iff.mp here).1
    omega
  named entry member := by
    rcases List.mem_append.mp member with early | late
    · obtain ⟨offset, place, here⟩ := placed.named entry early
      have inside := (List.getElem?_eq_some_iff.mp here).1
      exact ⟨offset, place, by rw [List.getElem?_append_left inside, here]⟩
    · obtain ⟨offset, place, here⟩ := placedMore.named entry late
      refine ⟨names.length + offset, by omega, ?_⟩
      rw [List.getElem?_append_right (Nat.le_add_right _ _),
        Nat.add_sub_cancel_left, here]

theorem append_names (placed : Placed first names asked)
    (moreNames : List String) : Placed first (names ++ moreNames) asked := by
  have appended := placed.append (nil : Placed _ moreNames [])
  rwa [List.append_nil] at appended

/-- Leaves at different places that do not fail give votes by place. -/
theorem exists_votedAs (placed : Placed first names asked)
    (voted : ∀ entry ∈ asked, ∃ vote, entry.answer = .ok vote) :
    ∃ votes, VotedAs votes asked := by
  -- Only that the places differ is kept for the induction; the names would not
  -- fit its hypothesis.
  have increasing := placed.increasing
  clear placed
  induction asked with
  | nil => exact ⟨fun _ => false, by simp [VotedAs]⟩
  | cons entry rest induction =>
      obtain ⟨below, increasingRest⟩ := List.pairwise_cons.mp increasing
      obtain ⟨vote, answered⟩ := voted entry (by simp)
      obtain ⟨votes, votedRest⟩ :=
        induction (fun other member => voted other (by simp [member]))
          increasingRest
      refine ⟨fun place => if place = entry.place then vote else votes place,
        ?_⟩
      intro other member
      rcases List.mem_cons.mp member with rfl | later
      · simp [answered]
      · have different : other.place ≠ entry.place :=
          Nat.ne_of_gt (below other later)
        simp [different, votedRest other later]

end Placed

mutual

/-- A tree asks its leaves from left to right, each at most once. -/
theorem Decides.placed {first : Nat} {spec : Spec} {state after : State}
    {asked : List Asked} {answer : Except Failure Bool}
    (decides : spec.Decides leaf first state asked answer after) :
    Placed first spec.names asked := by
  cases decides with
  | named answered => exact ⟨List.pairwise_singleton _ _, by simp [names]⟩
  | any children => exact children.placed
  | allOfNone => exact .nil
  | all children => exact children.placed
  | notVote child => exact child.placed
  | notFailed child => exact child.placed

theorem DecidesUntil.placed {stop : Bool} {first : Nat} {children : List Spec}
    {state after : State} {asked : List Asked} {answer : Except Failure Bool}
    (decides : DecidesUntil leaf stop first children state asked answer after) :
    Placed first (namesOfAll children) asked := by
  cases decides with
  | nil => exact .nil
  | stops child => exact child.placed.append_names _
  | fails child => exact child.placed.append_names _
  | passes child rest => exact child.placed.append rest.placed

end

mutual

theorem Decides.unique {first : Nat} {spec : Spec}
    {state after otherAfter : State} {asked otherAsked : List Asked}
    {answer otherAnswer : Except Failure Bool}
    (decides : spec.Decides leaf first state asked answer after)
    (other : spec.Decides leaf first state otherAsked otherAnswer otherAfter) :
    asked = otherAsked ∧ answer = otherAnswer ∧ after = otherAfter := by
  cases decides with
  | named answered =>
      cases other with
      | named otherAnswered =>
          rw [answered] at otherAnswered
          cases otherAnswered
          exact ⟨rfl, rfl, rfl⟩
  | any children =>
      cases other with
      | any otherChildren => exact children.unique otherChildren
  | allOfNone =>
      cases other with
      | allOfNone => exact ⟨rfl, rfl, rfl⟩
  | all children =>
      cases other with
      | all otherChildren => exact children.unique otherChildren
  | notVote child =>
      cases other with
      | notVote otherChild =>
          obtain ⟨rfl, sameVote, rfl⟩ := child.unique otherChild
          cases sameVote
          exact ⟨rfl, rfl, rfl⟩
      | notFailed otherChild =>
          obtain ⟨_, clash, _⟩ := child.unique otherChild
          cases clash
  | notFailed child =>
      cases other with
      | notVote otherChild =>
          obtain ⟨_, clash, _⟩ := child.unique otherChild
          cases clash
      | notFailed otherChild => exact child.unique otherChild

theorem DecidesUntil.unique {stop : Bool} {first : Nat} {children : List Spec}
    {state after otherAfter : State} {asked otherAsked : List Asked}
    {answer otherAnswer : Except Failure Bool}
    (decides : DecidesUntil leaf stop first children state asked answer after)
    (other : DecidesUntil leaf stop first children state otherAsked otherAnswer
      otherAfter) :
    asked = otherAsked ∧ answer = otherAnswer ∧ after = otherAfter := by
  cases decides with
  | nil =>
      cases other with
      | nil => exact ⟨rfl, rfl, rfl⟩
  | stops child =>
      cases other with
      | stops otherChild => exact child.unique otherChild
      | fails otherChild =>
          obtain ⟨_, clash, _⟩ := child.unique otherChild
          cases clash
      | passes otherChild otherRest =>
          obtain ⟨_, clash, _⟩ := child.unique otherChild
          cases stop <;> cases clash
  | fails child =>
      cases other with
      | stops otherChild =>
          obtain ⟨_, clash, _⟩ := child.unique otherChild
          cases clash
      | fails otherChild => exact child.unique otherChild
      | passes otherChild otherRest =>
          obtain ⟨_, clash, _⟩ := child.unique otherChild
          cases clash
  | passes child rest =>
      cases other with
      | stops otherChild =>
          obtain ⟨_, clash, _⟩ := child.unique otherChild
          cases stop <;> cases clash
      | fails otherChild =>
          obtain ⟨_, clash, _⟩ := child.unique otherChild
          cases clash
      | passes otherChild otherRest =>
          obtain ⟨rfl, _, rfl⟩ := child.unique otherChild
          obtain ⟨rfl, rfl, rfl⟩ := rest.unique otherRest
          exact ⟨rfl, rfl, rfl⟩

end

mutual

/-- When no leaf that is asked fails, a tree with children everywhere answers
its value, whatever the values of the leaves that are not asked. -/
theorem Decides.eq_value {first : Nat} {spec : Spec} (filled : spec.IsFilled)
    {state after : State} {asked : List Asked} {answer : Except Failure Bool}
    (decides : spec.Decides leaf first state asked answer after)
    {votes : Nat → Bool} (voted : VotedAs votes asked) :
    answer = .ok (spec.value votes first) := by
  cases decides with
  | named answered => exact voted _ (List.mem_singleton_self _)
  | any children => exact children.eq_value filled.2 voted
  -- The empty conjunction keeps, which is not its value; no filled tree has
  -- one.
  | allOfNone => exact (filled.1 rfl).elim
  | all children => exact children.eq_value filled.2 voted
  | notVote child =>
      cases child.eq_value (isFilled_not.mp filled) voted
      rw [value]
  | notFailed child =>
      cases child.eq_value (isFilled_not.mp filled) voted

theorem DecidesUntil.eq_value {stop : Bool} {first : Nat} {children : List Spec}
    (filled : AllFilled children) {state after : State} {asked : List Asked}
    {answer : Except Failure Bool}
    (decides : DecidesUntil leaf stop first children state asked answer after)
    {votes : Nat → Bool} (voted : VotedAs votes asked) :
    answer = .ok
      (if stop then
      someValue votes first children else everyValue votes first children) := by
  cases decides with
  | nil => cases stop <;> rfl
  -- The vote that stops is the absorbing one, so the children that are not
  -- asked do not matter.
  | stops child =>
      have stopped := Except.ok.inj (child.eq_value filled.1 voted)
      cases stop <;> simp [someValue, everyValue, ← stopped]
  | fails child => cases child.eq_value filled.1 voted
  | passes child rest =>
      have passed := Except.ok.inj
        (child.eq_value filled.1 fun entry member =>
          voted entry (by simp [member]))
      rw [rest.eq_value filled.2 fun entry member =>
        voted entry (by simp [member])]
      cases stop <;> simp [someValue, everyValue, ← passed]

end

end Facts

section Built

variable (pick : String → Strategy) (question : Question)

mutual

/-- A built strategy decides by the rules of its tree. -/
theorem exists_decides (first : Nat) (spec : Spec) (state : State) :
    ∃ asked,
      spec.Decides (fun name => (pick name).decide question) first state asked
      ((spec.assemble pick).decide question state).1
      ((spec.assemble pick).decide question state).2 := by
  cases spec with
  | named name => exact ⟨_, .named rfl⟩
  | any children =>
      obtain ⟨asked, decides⟩ := exists_decidesUntil true first children state
      rw [assemble, assembleAll_eq_map, Strategy.decide,
        Strategy.decideAny_eq_askUntil, List.map_map]
      exact ⟨asked, .any decides⟩
  | all children =>
      cases children with
      | nil => exact ⟨[], .allOfNone⟩
      | cons child rest =>
          obtain ⟨asked, decides⟩ :=
            exists_decidesUntil false first (child :: rest) state
          rw [assemble, assembleAll, Strategy.decide_all_cons,
            Strategy.decideAll_eq_askUntil, assembleAll_eq_map, ← List.map_cons,
            List.map_map]
          exact ⟨asked, .all decides⟩
  | not child =>
      obtain ⟨asked, decides⟩ := exists_decides first child state
      rw [assemble, Strategy.decide_not_apply]
      cases answered : (child.assemble pick).decide question state with
      | mk answer after =>
          rw [answered] at decides
          cases answer with
          | ok vote => exact ⟨asked, .notVote decides⟩
          | error failure => exact ⟨asked, .notFailed decides⟩

theorem exists_decidesUntil (stop : Bool) (first : Nat) (children : List Spec)
    (state : State) :
    ∃ asked, DecidesUntil (fun name => (pick name).decide question) stop
      first children state
      asked
      (Step.askUntil stop
        (children.map fun child => (child.assemble pick).decide question)
          state).1
      (Step.askUntil stop
        (children.map fun child => (child.assemble pick).decide question)
          state).2 := by
  cases children with
  | nil => exact ⟨[], .nil⟩
  | cons child rest =>
      obtain ⟨asked, decides⟩ := exists_decides first child state
      rw [List.map_cons]
      cases answered : (child.assemble pick).decide question state with
      | mk answer between =>
          rw [answered] at decides
          cases answer with
          | error failure =>
              rw [Step.askUntil_fails _ answered]
              exact ⟨asked, .fails decides⟩
          | ok vote =>
              by_cases stopped : vote = stop
              · subst stopped
                rw [Step.askUntil_stops _ answered]
                exact ⟨asked, .stops decides⟩
              · -- The children that follow are asked in the state that this one
                -- leaves.
                obtain rfl : vote = !stop := Bool.eq_not.mpr stopped
                obtain ⟨more, decidesRest⟩ :=
                  exists_decidesUntil stop (first + child.names.length)
                    rest between
                rw [Step.askUntil_passes _ answered]
                exact ⟨asked ++ more, .passes decides decidesRest⟩

end

end Built

/-- A tree of registered names is built into a strategy with the meaning of the
tree: it asks the leaves that the rules name, in that order and no others, and
answers as they say.  In a tree with children everywhere, as in every policy of
a valid configuration, and with leaves that do not fail the answer is the tree's
value in Boolean algebra.  Rewriting by De Morgan's laws and double negation
changes nothing at all. -/
theorem build_preserves_meaning (registry : Registry) (spec : Spec)
    (registered : ∀ name ∈ spec.names, registry.contains name = true) :
    ∃ strategy, spec.build registry = .ok strategy ∧
      (∀ (question : Question) (state : State),
        let leaf := fun name => (registry.pick name).decide question
        ∃ asked,
          (∀ leaves answer after,
            spec.Decides leaf 0 state leaves answer after ↔
            leaves = asked ∧ (answer, after) = strategy.decide question state) ∧
          Placed 0 spec.names asked ∧
          consult leaf (asked.map (·.name)) state =
            (asked.map (·.answer), (strategy.decide question state).2) ∧
          (spec.IsFilled → (∀ entry ∈ asked, ∃ vote, entry.answer = .ok vote) →
            (∃ votes, VotedAs votes asked) ∧ ∀ votes, VotedAs votes asked →
              (strategy.decide question state).1 = .ok (spec.value votes 0))) ∧
      (∀ config : Config, config.check = .ok () →
        ∀ policy ∈ config.policies, policy.strategy = spec → spec.IsFilled) ∧
      ∀ other, spec.Rewrites other →
        ∃ changed, other.build registry = .ok changed ∧
        ∀ question, changed.decide question = strategy.decide question := by
  refine ⟨_, build_of_registered registered, ?_, ?_, ?_⟩
  · intro question state leaf
    obtain ⟨asked, decides⟩ :=
      exists_decides registry.pick question 0 spec state
    refine ⟨asked, ?_, decides.placed, decides.consult_eq, ?_⟩
    · intro leaves answer after
      constructor
      · intro other
        obtain ⟨rfl, rfl, rfl⟩ := decides.unique other
        exact ⟨rfl, rfl⟩
      · rintro ⟨rfl, same⟩
        rw [← same] at decides
        exact decides
    · intro filled voted
      exact ⟨decides.placed.exists_votedAs voted,
        fun votes => decides.eq_value filled⟩
  · rintro config valid policy member rfl
    exact isFilled_of_fault?
      ((Config.guarantees_of_check valid).faultless policy member)
  · intro other rewrites
    have registeredOther : ∀ name ∈ other.names, registry.contains name =
        true := by
      rw [← rewrites.names_eq]
      exact registered
    refine ⟨_, build_of_registered registeredOther, ?_⟩
    intro question
    exact (rewrites.decide_eq registry.pick question).symm

/-- Two strategies that vote, and one that fails when it is asked. -/
def votingRegistry : Registry :=
  Table.ofList [("closed", .fixed false), ("open", .fixed true),
    ("broken", .failing (.strategy (.unknown "broken")))]

/-- The strategy that fails stands behind one that removes.  So it is not asked,
and the answer is the value of the tree all the same. -/
theorem build_preserves_meaning_before_failure :
    let spec : Spec :=
      .all [.not (.named "closed"), .any [.named "open", .named "broken"]]
    (∀ name ∈ spec.names, votingRegistry.contains name = true) ∧
      ∃ strategy, spec.build votingRegistry = .ok strategy ∧
        ∀ (question : Question) (state : State),
          (strategy.decide question state).1 = .ok (spec.value (· = 1) 0) ∧
            consult (fun name => (votingRegistry.pick name).decide question)
              ["closed", "open"]
                state =
              ([.ok false, .ok true], (strategy.decide question state).2) := by
  intro spec
  have registered : ∀ name ∈ spec.names, votingRegistry.contains name =
      true := by
    simp only [spec, names, namesOfAll]
    decide
  obtain ⟨strategy, built, means, _⟩ :=
    build_preserves_meaning votingRegistry spec registered
  refine ⟨registered, strategy, built, ?_⟩
  intro question state
  obtain ⟨asked, decides, _, consulted, valued⟩ := means question state
  have fixedVote : ∀ vote state, (Strategy.fixed vote).decide question state =
      (.ok vote, state.record (.asked question.task.label)) := by
    intro vote state
    rw [Strategy.fixed, Strategy.decide]
    rfl
  have rules := (decides _ _ _).mp <| .all <|
    .passes (.notVote (.named (fixedVote false state))) <|
    .passes (.any (.stops (.named (fixedVote true _)))) .nil
  obtain ⟨rfl, answered⟩ := rules
  have filled : spec.IsFilled := by simp [spec, IsFilled, AllFilled]
  refine ⟨?_, consulted⟩
  apply (valued filled ?_).2
  · simp [VotedAs, names]
  · simp

end Spec

end TaskSieve
