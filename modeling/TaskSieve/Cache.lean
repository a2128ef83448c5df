import TaskSieve.Evidence
import TaskSieve.Failure

/-!
# Remembered evidence

Evidence is remembered for a revision of a branch and a number of pushes that
it was gathered from.  That the predictor timed out is remembered as well.
-/

namespace TaskSieve

open Std

/-- What remembered evidence belongs to. -/
structure CacheKey where
  branch : String
  revision : String
  /-- From how many pushes the evidence was gathered. -/
  pushes : Nat
  deriving DecidableEq, Repr

namespace CacheKey

/-- Keys are ordered by branch, then revision, then number of pushes. -/
def order : CacheKey → CacheKey → Ordering :=
  compareLex (compareOn branch)
    (compareLex (compareOn revision) (compareOn pushes))

instance : Ord CacheKey := ⟨order⟩

instance : TransOrd CacheKey :=
  inferInstanceAs (TransCmp (compareLex (compareOn branch)
    (compareLex (compareOn revision) (compareOn pushes))))

instance : LawfulEqOrd CacheKey where
  eq_of_compare {left right} same := by
    obtain ⟨branch, revision, pushes⟩ := left
    obtain ⟨branch', revision', pushes'⟩ := right
    have both : (compare branch branch').then
        ((compare revision revision').then (compare pushes pushes')) = .eq :=
      same
    simp only [Ordering.then_eq_eq] at both
    rw [LawfulEqOrd.eq_of_compare both.1, LawfulEqOrd.eq_of_compare both.2.1,
      LawfulEqOrd.eq_of_compare both.2.2]

end CacheKey

/-- What is remembered: evidence, or that there was none in time. -/
inductive Remembered
  | ready (evidence : Evidence)
  | timedOut (elapsed : Nat)
  deriving DecidableEq, Repr

/-- The evidence remembered so far. -/
abbrev Cache := Table CacheKey Remembered

/-- What remembered evidence answers for a revision of a branch. -/
def Remembered.answer (branch revision : String) :
    Remembered → Except EvidenceError Evidence
  | .ready evidence => .ok evidence
  | .timedOut elapsed => .error (.timeout branch revision elapsed)

end TaskSieve
