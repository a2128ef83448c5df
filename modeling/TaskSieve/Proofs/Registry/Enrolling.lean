import TaskSieve.Proofs.Registry.Entries

/-!
# Registering in sequence

A call that registers a strategy under a taken name fails and leaves the
registry as it was.  So after any calls a name stands for the strategy of the
first call with that name, and the registry lists each name once, in order.
-/

namespace TaskSieve

namespace Registry

/-- The registry after a call that registers a strategy, which may fail. -/
def attempt (registry : Registry) (call : String × Strategy) : Registry :=
  match registry.register call.1 call.2 with
  | .ok grown => grown
  | .error _ => registry

/-- The registry after some calls, from an empty one. -/
def enroll (calls : List (String × Strategy)) : Registry :=
  calls.foldl attempt ∅

theorem register_taken {registry : Registry} {name : String}
    (strategy : Strategy) (taken : registry.contains name = true) :
    registry.register name strategy = .error (.duplicate name) := by
  rw [register, if_pos taken]

theorem register_free {registry : Registry} {call : String × Strategy}
    (free : registry.contains call.1 ≠ true) :
    registry.register call.1 call.2 = .ok (registry.attempt call) := by
  rw [attempt, register, if_neg free]

theorem attempt_taken {registry : Registry} {call : String × Strategy}
    (taken : registry.contains call.1 = true) :
    registry.attempt call = registry := by
  rw [attempt, register_taken _ taken]

theorem find?_attempt (registry : Registry) (call : String × Strategy)
    (name : String) :
    (registry.attempt call).find? name =
      (registry.find? name).or
        (if call.1 = name then some call.2 else none) := by
  cases found : registry.find? call.1 with
  | some held =>
      have taken : registry.contains call.1 = true := by
        simp [Table.contains, found]
      rw [attempt_taken taken]
      by_cases same : call.1 = name
      · subst same
        simp [found]
      · simp [same]
  | none =>
      rw [attempt, register_new _ found, Table.find?_insert]
      by_cases same : call.1 = name
      · subst same
        simp [found]
      · simp [same, Ne.symm same]

theorem find?_foldl_attempt (calls : List (String × Strategy))
    (registry : Registry) (name : String) :
    (calls.foldl attempt registry).find? name =
      (registry.find? name).or
        ((calls.find? fun call => call.1 = name).map (·.2)) := by
  induction calls generalizing registry with
  | nil => simp
  | cons call rest induction =>
      rw [List.foldl_cons, induction, find?_attempt, Option.or_assoc]
      by_cases same : call.1 = name
      · simp [same]
      · simp [same]

/-- A name stands for the first strategy that was registered under it. -/
theorem find?_enroll (calls : List (String × Strategy)) (name : String) :
    (enroll calls).find? name =
      (calls.find? fun call => call.1 = name).map (·.2) := by
  rw [enroll, find?_foldl_attempt, Table.find?_empty, Option.none_or]

theorem contains_enroll (calls : List (String × Strategy)) (name : String) :
    (enroll calls).contains name = true ↔ name ∈ calls.map (·.1) := by
  rw [Table.contains, find?_enroll]
  simp

theorem enroll_append (front : List (String × Strategy))
    (call : String × Strategy) :
    enroll (front ++ [call]) = (enroll front).attempt call := by
  rw [enroll, List.foldl_append]
  rfl

/-- The names of a registry increase strictly. -/
theorem keys_increasing (registry : Registry) :
    registry.keys.Pairwise (· < ·) :=
  registry.keys_pairwise.imp compareOfLessAndEq_eq_lt.mp

end Registry

end TaskSieve
