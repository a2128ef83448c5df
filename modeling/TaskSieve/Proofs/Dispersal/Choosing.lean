import Mathlib.Data.List.Induction
import TaskSieve.Proofs.Dispersal.Regrouping

/-!
# What the walk chooses of a single group

When all candidates run the same group and no other one, what the walk retains
can be told without walking: the first candidates, as many as the importance
of the group asks for, and of the later ones with a novel configuration the
first ones, as many as there are places for these.  The walk compares with the
retained candidates only, but that makes no difference: a configuration is
rejected because a retained candidate has it or because no places are left,
and both stays so.  All this holds as long as a word holds how many candidates
these are; what happens otherwise is told elsewhere.
-/

namespace TaskSieve

namespace Plan

open Candidate (Before regroup)

variable {targets : Targets} {group : String} {level : Importance}
  {candidate : Candidate} {retained members : List Candidate}

/-- Whether the configuration of a candidate occurs at none of the members that
come before it. -/
def isNovel (members : List Candidate) (candidate : Candidate) : Bool :=
  (earlier candidate members).all fun other => other.configuration !=
    candidate.configuration

/-- The members after the first ones whose configuration is novel. -/
def novel (count : Nat) (members : List Candidate) : List Candidate :=
  (members.drop count).filter (isNovel members)

/-- The first members up to a count, and of the later ones with a novel
configuration the first ones up to another count. -/
def chosen (count unseen : Nat) (members : List Candidate) : List Candidate :=
  members.take count ++ (novel count members).take unseen

variable {count unseen : Nat} {configuration : String}

section Regrouping

variable {rewrite : List (String × Importance) → List (String × Importance)}

end Regrouping

end Plan

end TaskSieve
