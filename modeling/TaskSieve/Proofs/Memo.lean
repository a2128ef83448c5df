import Mathlib.Data.List.Basic
import Std.Data.String.ToNat
import TaskSieve.Context
import TaskSieve.Proofs.Step
import TaskSieve.Proofs.Table

/-!
# Values derived from a context

Plans for different targets are kept under different keys, and none of them
under the key of the changed directories.  A memo that extends another one
holds what that one holds and otherwise only what the context makes of the
keys, so it does not matter which of its values were derived before.
-/

namespace TaskSieve

namespace Decimal

theorem colon_not_mem_toString (number : Nat) :
    ':' ∉ (toString number).toList := by
  intro member
  rw [Nat.toString_eq_repr, Nat.toList_repr] at member
  have digit := Nat.isDigit_of_mem_toDigits (by decide) (by decide) member
  exact absurd digit (by decide)

theorem toList_toString_injective {first second : Nat}
    (same : (toString first).toList = (toString second).toList) :
    first = second :=
  Nat.repr_injective (String.toList_injective same)

/-- A number and what follows it after a colon can be told apart. -/
theorem split_at_colon {first second : Nat} {rest otherRest : List Char}
    (same : (toString first).toList ++ ':' :: rest =
      (toString second).toList ++ ':' :: otherRest) :
    first = second ∧ rest = otherRest := by
  have cut : ∀ (number : Nat) (rest : List Char),
      ((toString number).toList ++ ':' :: rest).takeWhile (· != ':') =
        (toString number).toList := by
    intro number rest
    rw [List.takeWhile_append_of_pos]
    · simp
    · intro letter member
      rw [bne_iff_ne]
      intro isColon
      exact colon_not_mem_toString number (isColon ▸ member)
  have sameDigits : (toString first).toList = (toString second).toList := by
    rw [← cut first rest, ← cut second otherRest, same]
  rw [sameDigits] at same
  refine ⟨toList_toString_injective sameDigits, ?_⟩
  exact (List.cons.inj (List.append_cancel_left same)).2

end Decimal

namespace Context

theorem toList_planKey (targets : Targets) :
    (planKey targets).toList =
      "dispersal-plan:".toList ++
        ((toString targets.low.toNat).toList ++ ':' ::
          ((toString targets.medium.toNat).toList ++ ':' ::
            ((toString targets.high.toNat).toList ++ ':' ::
              (toString targets.unseen.toNat).toList))) := by
  have colon : ":".toList = [':'] := rfl
  have text : ∀ text : String, toString text = text := fun _ => rfl
  have number : ∀ word : UInt64, toString word = toString word.toNat :=
    fun _ => rfl
  unfold planKey
  simp only [text, number, String.toList_append, List.append_assoc, colon,
    List.cons_append, List.nil_append]

theorem planKey_injective {first second : Targets}
    (same : planKey first = planKey second) : first = second := by
  have letters := congrArg String.toList same
  rw [toList_planKey, toList_planKey] at letters
  obtain ⟨low, afterLow⟩ :=
    Decimal.split_at_colon (List.append_cancel_left letters)
  obtain ⟨medium, afterMedium⟩ := Decimal.split_at_colon afterLow
  obtain ⟨high, afterHigh⟩ := Decimal.split_at_colon afterMedium
  have unseen := Decimal.toList_toString_injective afterHigh
  cases first
  cases second
  simp_all only [UInt64.toNat_inj]

theorem planKey_ne_directories (targets : Targets) :
    planKey targets ≠ "changed-dirs" := by
  intro same
  have letters := congrArg (fun text => text.toList.head?) same
  simp [toList_planKey] at letters

/-- What a context makes of a key. -/
inductive Derives (context : Context) : String → Derived → Prop where
  | directories (files : List String)
    (known : context.changedFiles = some files) :
      Derives context "changed-dirs"
        (.directories (RelevantTests.directories files))
  | plan (targets : Targets) :
      Derives context (planKey targets)
        (.plan (Plan.compute context.candidates context.importance targets))

theorem Derives.eq_directories {context : Context} {key : String}
    {value : Derived} {files : List String}
    (derives : context.Derives key value) (named : key = "changed-dirs")
    (known : context.changedFiles = some files) :
    value = .directories (RelevantTests.directories files) := by
  cases derives with
  | directories others knownOthers =>
      rw [known] at knownOthers
      cases knownOthers
      rfl
  | plan targets => exact (planKey_ne_directories targets named).elim

theorem Derives.eq_plan {context : Context} {key : String} {value : Derived}
    {targets : Targets} (derives : context.Derives key value)
    (named : key = planKey targets) :
    value =
      .plan (Plan.compute context.candidates context.importance targets) := by
  cases derives with
  | directories files known =>
      exact (planKey_ne_directories targets named.symm).elim
  | plan others =>
      rw [planKey_injective named]

/-- A memo that holds what another one holds, and besides only what the context
makes of its keys. -/
def Extends (context : Context) (start memo : Memo) : Prop :=
  ∀ key, memo.find? key = start.find? key ∨
    start.find? key = none ∧ ∃ value, memo.find? key = some value ∧
    context.Derives key value

variable {context : Context} {start memo : Memo} {key : String}

theorem Extends.refl : context.Extends memo memo := fun _ => .inl rfl

theorem Extends.insert {value : Derived}
    (extending : context.Extends start memo) (absent : memo.find? key = none)
    (derives : context.Derives key value) :
    context.Extends start (memo.insert key value) := by
  intro other
  rw [Table.find?_insert]
  by_cases same : other = key
  · subst same
    rw [if_pos rfl]
    rcases extending other with kept | ⟨missing, _⟩
    · exact .inr ⟨kept ▸ absent, value, rfl, derives⟩
    · exact .inr ⟨missing, value, rfl, derives⟩
  · rw [if_neg same]
    exact extending other

/-- A property of states that bounds what the memo holds and survives deriving
values. -/
structure AllowsDeriving (context : Context) (start : Memo)
    (invariant : State → Prop) : Prop where
  extending : ∀ state, invariant state → context.Extends start state.memo
  noted : ∀ state key, invariant state → invariant (state.record (.derived key))
  kept : ∀ state key value, invariant state → state.memo.find? key = none →
    context.Derives key value →
    invariant { state.record (.derived key) with
      memo := state.memo.insert key value }

end Context

/-- The value under a key of a memo, or a computed one when there is none of its
kind. -/
def Memo.recall (memo : Memo) (key : String) (take : Derived → Option α)
    (computed : α) : α :=
  match memo.find? key with
  | none => computed
  | some held => (take held).getD computed

namespace Step

open Context

variable {α : Type} {context : Context} {start : Memo}
  {invariant : State → Prop} {passing : Failure → Prop} {key : String}
  {take : Derived → Option α} {wrap : α → Derived} {compute : Unit → α}

/-- A derived value is the one of the starting memo, or else what the context
makes of the key, whatever was derived in between. -/
theorem derive_settles (allows : context.AllowsDeriving start invariant)
    (genuine : context.Derives key (wrap (compute ())))
    (unique : ∀ value, context.Derives key value → value = wrap (compute ()))
    (taken : take (wrap (compute ())) = some (compute ())) :
    Settles invariant passing (derive key take wrap compute)
      (.ok (start.recall key take (compute ()))) := by
  apply Settles.of_results
  intro state holds
  rcases allows.extending state holds key with
    same | ⟨missing, value, found, derives⟩
  · cases present : state.memo.find? key with
    | none =>
        rw [present] at same
        refine ⟨.ok (compute ()), _, by simp [derive, present], ?_,
          fun _ => allows.kept state key _ holds present genuine⟩
        simp only [Memo.recall, ← same]
        exact .same _
    | some held =>
        rw [present] at same
        simp only [Memo.recall, ← same]
        cases usable : take held with
        | some value =>
            exact ⟨.ok value, state, by simp [derive, present, usable],
              .same _, fun _ => holds⟩
        | none =>
            exact ⟨.ok (compute ()), _, by simp [derive, present, usable],
              .same _, fun _ => allows.noted state key holds⟩
  · have own := unique value derives
    subst own
    refine ⟨.ok (compute ()), state, by simp [derive, found, taken], ?_,
      fun _ => holds⟩
    simp only [Memo.recall, missing]
    exact .same _

theorem directories_settles (allows : context.AllowsDeriving start invariant)
    {files : List String} (known : context.changedFiles = some files) :
    Settles invariant passing (Context.directories files)
      (.ok (start.recall "changed-dirs"
        (fun held => match held with
          | .directories names => some names
          | _ => none)
        (RelevantTests.directories files))) := by
  refine derive_settles allows (.directories files known) ?_ rfl
  intro value derives
  exact derives.eq_directories rfl known

theorem plan_settles (allows : context.AllowsDeriving start invariant)
    (targets : Targets) :
    Settles invariant passing (context.plan targets)
      (.ok (start.recall (planKey targets)
        (fun held => match held with
          | .plan plan => some plan
          | _ => none)
        (Plan.compute context.candidates context.importance targets))) := by
  refine derive_settles allows (.plan targets) ?_ rfl
  intro value derives
  exact derives.eq_plan rfl

end Step

end TaskSieve
