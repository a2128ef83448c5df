import TaskSieve.Proofs.Spec.Meaning

/-!
# Trees without negation

A tree that negates nothing removes a task only by the vote of a leaf that it
has asked.  This rests on the empty conjunction, which keeps although nothing
stands against a removal.  For the same reason such a tree is monotone: when
the leaves vote a second time and each of them removes where it did before, so
does the tree.  The second time other leaves may be asked, since a disjunction
stops earlier and a conjunction later, so the two runs are compared rule by
rule.
-/

namespace TaskSieve

namespace Spec

mutual

/-- A tree without negation. -/
def IsPositive : Spec → Prop
  | .named _ => True
  | .any children => AllPositive children
  | .all children => AllPositive children
  | .not _ => False

/-- Several trees of that kind. -/
def AllPositive : List Spec → Prop
  | [] => True
  | child :: rest => child.IsPositive ∧ AllPositive rest

end

section Rules

variable {leaf other : String → Step Bool} {votes more : Nat → Bool}

mutual

/-- A tree without negation removes by the vote of a leaf. -/
theorem Decides.exists_removal {first : Nat} {spec : Spec}
    (positive : spec.IsPositive) {state after : State} {asked : List Asked}
    {answer : Except Failure Bool}
    (decides : spec.Decides leaf first state asked answer after)
    (removed : answer = .ok true) :
    ∃ entry ∈ asked, entry.answer = .ok true := by
  cases decides with
  | named answered => exact ⟨_, List.mem_singleton_self _, removed⟩
  | any children => exact children.exists_removal (.inl rfl) positive removed
  -- The empty conjunction would remove without a vote, and keeps instead.
  | allOfNone => cases removed
  | all children =>
      exact children.exists_removal (.inr (List.cons_ne_nil _ _))
        positive removed
  | notVote child => exact positive.elim
  | notFailed child => exact positive.elim

theorem DecidesUntil.exists_removal {stop : Bool} {first : Nat}
    {children : List Spec} (nonvacuous : stop = true ∨ children ≠ [])
    (positive : AllPositive children) {state after : State} {asked : List Asked}
    {answer : Except Failure Bool}
    (decides : DecidesUntil leaf stop first children state asked answer after)
    (removed : answer = .ok true) :
    ∃ entry ∈ asked, entry.answer = .ok true := by
  cases decides with
  | nil =>
      rcases nonvacuous with rfl | nonempty
      · cases removed
      · exact (nonempty rfl).elim
  | stops child => exact child.exists_removal positive.1 removed
  | fails child => cases removed
  | passes child rest =>
      cases stop with
      | true =>
          obtain ⟨entry, member, removes⟩ :=
            rest.exists_removal (.inl rfl) positive.2 removed
          exact ⟨entry, List.mem_append_right _ member, removes⟩
      | false =>
          obtain ⟨entry, member, removes⟩ := child.exists_removal positive.1 rfl
          exact ⟨entry, List.mem_append_left _ member, removes⟩

end

mutual

/-- A tree votes exactly if every leaf that it asks does. -/
theorem Decides.votes_iff {first : Nat} {spec : Spec} {state after : State}
    {asked : List Asked} {answer : Except Failure Bool}
    (decides : spec.Decides leaf first state asked answer after) :
    (∃ vote, answer = .ok vote) ↔
      ∀ entry ∈ asked, ∃ vote, entry.answer = .ok vote := by
  cases decides with
  | named answered => simp
  | any children => exact children.votes_iff
  | allOfNone => simp
  | all children => exact children.votes_iff
  | notVote child => simpa using child.votes_iff
  | notFailed child => simpa using child.votes_iff

theorem DecidesUntil.votes_iff {stop : Bool} {first : Nat}
    {children : List Spec} {state after : State} {asked : List Asked}
    {answer : Except Failure Bool}
    (decides : DecidesUntil leaf stop first children state asked answer after) :
    (∃ vote, answer = .ok vote) ↔
      ∀ entry ∈ asked, ∃ vote, entry.answer = .ok vote := by
  cases decides with
  | nil => simp
  | stops child => exact child.votes_iff
  | fails child => exact child.votes_iff
  | passes child rest =>
      have votedChild := child.votes_iff.mp ⟨_, rfl⟩
      rw [rest.votes_iff, List.forall_mem_append, and_iff_right votedChild]

end

mutual

/-- When each leaf removes where it did before, a tree without negation does so
too. -/
theorem Decides.removes_again
    (grows : ∀ place, votes place = true → more place = true) {first : Nat}
    {spec : Spec} (positive : spec.IsPositive)
    {state after otherState otherAfter : State} {asked otherAsked : List Asked}
    {answer otherAnswer : Except Failure Bool}
    (decides : spec.Decides leaf first state asked answer after)
    (voted : VotedAs votes asked) (again :
      spec.Decides other first otherState otherAsked otherAnswer otherAfter)
    (votedAgain : VotedAs more otherAsked) (removed : answer = .ok true) :
    otherAnswer = .ok true := by
  cases decides with
  | named answered =>
      cases again with
      | named answeredAgain =>
          have vote := voted _ (List.mem_singleton_self _)
          have voteAgain := votedAgain _ (List.mem_singleton_self _)
          simp only [removed, Except.ok.injEq] at vote
          simpa only [grows _ vote.symm] using voteAgain
  | any children =>
      cases again with
      | any childrenAgain =>
          exact children.removes_again grows positive voted childrenAgain
            votedAgain removed
  | allOfNone => cases removed
  | all children =>
      cases again with
      | all childrenAgain =>
          exact children.removes_again grows positive voted childrenAgain
            votedAgain removed
  | notVote child => exact positive.elim
  | notFailed child => exact positive.elim

theorem DecidesUntil.removes_again
    (grows : ∀ place, votes place = true → more place = true) {stop : Bool}
    {first : Nat} {children : List Spec} (positive : AllPositive children)
    {state after otherState otherAfter : State} {asked otherAsked : List Asked}
    {answer otherAnswer : Except Failure Bool}
    (decides : DecidesUntil leaf stop first children state asked answer after)
    (voted : VotedAs votes asked) (again : DecidesUntil other stop first
      children otherState otherAsked otherAnswer otherAfter)
    (votedAgain : VotedAs more otherAsked) (removed : answer = .ok true) :
    otherAnswer = .ok true := by
  cases decides with
  | nil =>
      cases again with
      | nil => exact removed
  | stops child =>
      cases again with
      | stops childAgain => exact removed
      | fails childAgain =>
          exact child.removes_again grows positive.1 voted childAgain
            votedAgain removed
      | passes childAgain restAgain =>
          have votedChild : VotedAs more _ :=
            fun entry member => votedAgain entry (List.mem_append_left _ member)
          have removesAgain :=
            child.removes_again grows positive.1 voted childAgain
              votedChild removed
          cases stop with
          | true => cases removesAgain
          | false => cases removed
  | fails child => cases removed
  | passes child rest =>
      have votedChild : VotedAs votes _ :=
        fun entry member => voted entry (List.mem_append_left _ member)
      have votedRest : VotedAs votes _ :=
        fun entry member => voted entry (List.mem_append_right _ member)
      cases again with
      | stops childAgain =>
          cases stop with
          | true => rfl
          | false =>
              exact child.removes_again grows positive.1 votedChild childAgain
                votedAgain rfl
      | fails childAgain =>
          obtain ⟨vote, failed⟩ := childAgain.votes_iff.mpr
            fun entry member => ⟨_, votedAgain entry member⟩
          cases failed
      | passes childAgain restAgain =>
          exact rest.removes_again grows positive.2 votedRest restAgain
            (fun entry member =>
              votedAgain entry (List.mem_append_right _ member)) removed

end

end Rules

variable {registry : Registry} {spec : Spec} {strategy : Strategy}

/-- The rules decide what the strategy of a tree does. -/
theorem decide_eq_of_decides {pick : String → Strategy} {question : Question}
    {first : Nat} {state after : State} {asked : List Asked}
    {answer : Except Failure Bool}
    (decides : spec.Decides (fun name => (pick name).decide question) first
      state asked answer after) :
    (spec.assemble pick).decide question state = (answer, after) := by
  obtain ⟨others, built⟩ := exists_decides pick question first spec state
  obtain ⟨_, sameAnswer, sameAfter⟩ := built.unique decides
  exact Prod.ext sameAnswer sameAfter

theorem eq_assemble_of_build (built : spec.build registry = .ok strategy) :
    strategy = spec.assemble registry.pick := by
  rw [build_eq] at built
  split at built
  · cases built
  · exact (Except.ok.inj built).symm

/-- No leaf fails that a tree asks when it is asked this question in this state,
and the leaves vote by place as given. -/
def VotesAs (registry : Registry) (spec : Spec) (question : Question)
    (state : State) (votes : Nat → Bool) : Prop :=
  ∃ asked answer after,
    spec.Decides (fun name => (registry.pick name).decide question) 0 state
      asked answer after ∧
      VotedAs votes asked

/-- The strategy of a tree without negation removes a task only if a leaf does
that it asks about the task.  When the leaves of the tree, in whatever registry
and state, vote without failing, and another time remove wherever they did
before, then the tree removes what it did before. -/
theorem build_removes_by_vote (spec : Spec) (positive : spec.IsPositive) :
    (∀ (registry : Registry) (strategy : Strategy), spec.build registry =
      .ok strategy →
      ∀ (question : Question) (state : State),
        (strategy.decide question state).1 = .ok true →
        let leaf := fun name => (registry.pick name).decide question
        ∃ asked,
          spec.Decides leaf 0 state asked (.ok true)
            (strategy.decide question state).2 ∧
          consult leaf (asked.map (·.name)) state =
            (asked.map (·.answer), (strategy.decide question state).2) ∧
          ∃ entry ∈ asked, entry.answer = .ok true) ∧
    ∀ votes more : Nat → Bool,
      (∀ place, votes place = true → more place = true) →
      ∀ (registry other : Registry) (strategy changed : Strategy),
        spec.build registry = .ok strategy → spec.build other = .ok changed →
        ∀ (question asking : Question) (state start : State),
          spec.VotesAs registry question state votes →
          spec.VotesAs other asking start more →
          (strategy.decide question state).1 = .ok true →
          (changed.decide asking start).1 = .ok true := by
  constructor
  · intro registry strategy built question state removed leaf
    obtain rfl := eq_assemble_of_build built
    obtain ⟨asked, decides⟩ :=
      exists_decides registry.pick question 0 spec state
    rw [removed] at decides
    exact ⟨asked, decides, decides.consult_eq,
      decides.exists_removal positive rfl⟩
  · rintro votes more grows registry other strategy changed built builtAgain
      question asking state
      start ⟨asked, answer, after, decides, voted⟩
      ⟨askedAgain, answerAgain, afterAgain, again, votedAgain⟩ removed
    obtain rfl := eq_assemble_of_build built
    obtain rfl := eq_assemble_of_build builtAgain
    rw [decide_eq_of_decides decides] at removed
    rw [decide_eq_of_decides again]
    exact decides.removes_again grows positive voted again votedAgain removed

/-- The conjunction keeps at first, and the leaf behind it removes.  Where the
leaf that kept removes as well, the conjunction does so before the last leaf is
asked. -/
theorem build_removes_by_vote_of_changed_leaf :
    let spec : Spec :=
      .any [.all [], .all [.named "open", .named "closed"], .named "open"]
    let lenient : Registry :=
      Table.ofList [("closed", .fixed true), ("open", .fixed true)]
    spec.IsPositive ∧
      ∃ strategy changed, spec.build votingRegistry = .ok strategy ∧
        spec.build lenient = .ok changed ∧
        ∀ (question : Question) (state : State),
          (strategy.decide question state).1 = .ok true ∧
          (changed.decide question state).1 = .ok true ∧
          ∃ asked, spec.Decides
            (fun name => (votingRegistry.pick name).decide question) 0 state
              asked (.ok true) (strategy.decide question state).2 ∧
            ∃ entry ∈ asked, entry.answer = .ok true := by
  intro spec lenient
  have positive : spec.IsPositive := by simp [spec, IsPositive, AllPositive]
  have named : spec.names = ["open", "closed", "open"] := by
    simp [spec, names, namesOfAll]
  have built :
      spec.build votingRegistry = .ok (spec.assemble votingRegistry.pick) := by
    apply build_of_registered
    rw [named]
    decide
  have builtAgain : spec.build lenient = .ok (spec.assemble lenient.pick) := by
    apply build_of_registered
    rw [named]
    decide
  refine ⟨positive, _, _, built, builtAgain, ?_⟩
  intro question state
  have fixedVote : ∀ vote state, (Strategy.fixed vote).decide question state =
      (.ok vote, state.record (.asked question.task.label)) := by
    intro vote state
    rw [Strategy.fixed, Strategy.decide]
    rfl
  have rules : spec.Decides
      (fun name => (votingRegistry.pick name).decide question) 0 state
      ([] ++ ([⟨0, "open", .ok true⟩] ++ [⟨1, "closed", .ok false⟩] ++
        [⟨2, "open", .ok true⟩]))
      (.ok true) _ :=
    .any <| .passes .allOfNone <|
      .passes (.all (.passes (.named (fixedVote true _))
        (.stops (.named (fixedVote false _))))) <|
      .stops (.named (fixedVote true _))
  have rulesAgain :
      spec.Decides (fun name => (lenient.pick name).decide question) 0 state
      ([] ++ ([⟨0, "open", .ok true⟩] ++ ([⟨1, "closed", .ok true⟩] ++ [])))
        (.ok true) _ :=
    .any <| .passes .allOfNone <| .stops <| .all <|
      .passes (.named (fixedVote true _))
        (.passes (.named (fixedVote true _)) .nil)
  have votes : spec.VotesAs votingRegistry question state fun place =>
      place != 1 :=
    ⟨_, _, _, rules, by simp [VotedAs]⟩
  have more : spec.VotesAs lenient question state fun _ => true :=
    ⟨_, _, _, rulesAgain, by simp [VotedAs]⟩
  have removed : ((spec.assemble votingRegistry.pick).decide question state).1 =
      .ok true := by
    rw [decide_eq_of_decides rules]
  obtain ⟨byVote, monotone⟩ := build_removes_by_vote spec positive
  obtain ⟨asked, decides, _, removal⟩ := byVote _ _ built question state removed
  refine ⟨removed, ?_, asked, decides, removal⟩
  exact monotone _ _ (fun _ _ => rfl) _ _ _ _ built builtAgain _ _ _ _ votes
    more removed

end Spec

end TaskSieve
