import TaskSieve.Config.Basic
import TaskSieve.Task

/-!
# Dispersal of test groups over tasks

Several tasks run the same test group, on different platforms and in different
variants.  A plan walks through the tasks from the plainest configuration to
the most particular one and retains a task as long as one of its groups still
has room: as many tasks as its importance asks for, and some more for
configurations that do not run the group yet.
-/

namespace TaskSieve

open Std

/-- A task that a plan considers. -/
structure Candidate where
  label : String
  platform : String
  variant : String
  multiProcess : Bool
  /-- The groups with an importance that the task runs, as often as it lists
  them. -/
  groups : List (String × Importance)
  deriving DecidableEq, Repr

namespace Candidate

/-- The groups of a task that have an importance. -/
def groupsOf (importance : Table String Importance) (task : Task) :
    List (String × Importance) :=
  task.manifests.filterMap fun group =>
    (importance.find? group).map fun level => (group, level)

/-- A task with a platform and a group of some importance, as a candidate. -/
def ofTask? (importance : Table String Importance) (task : Task) :
    Option Candidate := do
  let platform ← task.attributes.platform
  let groups := groupsOf importance task
  if groups.isEmpty then none
  return {
    label := task.label
    platform
    variant := task.attributes.variant.getD ""
    multiProcess := task.attributes.multiProcess
    groups }

/-- How particular a configuration is: plain, a variant, or without processes of
its own. -/
def rank (candidate : Candidate) : Nat :=
  if !candidate.multiProcess then
    2 else if candidate.variant.isEmpty then 0 else 1

/-- The name of the configuration that a task runs in. -/
def configuration (candidate : Candidate) : String :=
  candidate.platform
    ++ (if candidate.variant.isEmpty then "" else "-" ++ candidate.variant)
    ++ (if candidate.multiProcess then "" else "-1proc")

/-- The order in which a plan walks through the candidates. -/
def order : Candidate → Candidate → Ordering :=
  compareLex (compareOn rank)
    (compareLex (compareOn platform)
      (compareLex (compareOn variant) (compareOn label)))

/-- Whether a candidate does not come after another. -/
def precedes (left right : Candidate) : Bool := (order left right).isLE

/-- How often a candidate lists a group. -/
def occurrences (candidate : Candidate) (group : String) : Nat :=
  (candidate.groups.filter fun listed => listed.1 == group).length

end Candidate

/-- A plan: the labels it considers, and those of them that it retains. -/
structure Plan where
  considered : Names := ∅
  retained : Names := ∅
  deriving DecidableEq, Repr

namespace Plan

/-- How often the retained candidates list a group. -/
def taken : List Candidate → String → Nat
  | [], _ => 0
  | candidate :: rest, group => candidate.occurrences group + taken rest group

/-- Whether a retained candidate runs a group in a configuration. -/
def covers (retained : List Candidate) (group configuration : String) : Bool :=
  retained.any fun candidate =>
    candidate.configuration == configuration &&
      candidate.groups.any fun listed => listed.1 == group

/-- How often a group of some importance may be listed, for one more candidate
in a configuration. -/
def limit (targets : Targets) (retained : List Candidate)
    (configuration : String) (listed : String × Importance) : UInt64 :=
  targets.count listed.2 +
    if covers retained listed.1 configuration then 0 else targets.unseen

/-- Whether some group of a candidate still has room after the retained ones. -/
def hasRoom (targets : Targets) (retained : List Candidate)
    (candidate : Candidate) : Bool :=
  candidate.groups.any fun listed =>
    taken retained listed.1 <
      (limit targets retained candidate.configuration listed).toNat

/-- The candidates retained by a walk, after those retained before it. -/
def walk (targets : Targets) (retained : List Candidate) :
    List Candidate → List Candidate
  | [] => retained
  | candidate :: rest =>
      if hasRoom targets retained candidate then
        walk targets (retained ++ [candidate]) rest
      else walk targets retained rest

/-- The candidates among tasks, in the order of the walk. -/
def candidates (tasks : List Task) (importance : Table String Importance) :
    List Candidate :=
  (tasks.filterMap (Candidate.ofTask? importance)).mergeSort Candidate.precedes

/-- The plan for tasks under an importance of groups. -/
def compute (tasks : List Task) (importance : Table String Importance)
    (targets : Targets) : Plan :=
  let ordered := candidates tasks importance
  { considered := Names.ofList (ordered.map (·.label))
    retained := Names.ofList ((walk targets [] ordered).map (·.label)) }

/-- Whether a plan removes a label: it considers it and does not retain it. -/
def removes (plan : Plan) (label : String) : Bool :=
  plan.considered.contains label && !plan.retained.contains label

end Plan

end TaskSieve
