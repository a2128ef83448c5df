import TaskSieve.Policy
import TaskSieve.Proofs.Registry.Enrolling
import TaskSieve.Proofs.Spec.Building

/-!
# Which policy applies

The built-in policy counts as the first entry of the policy table and the
policies of the configuration as the later ones.  All their trees are built, in
that order, also those that a later policy replaces.  So the first name on the
way that is not registered is reported, and when there is none the last entry
for a project and a purpose is what applies to them.
-/

namespace TaskSieve

/-- The names in the policies of a configuration, after those of the built-in
policy. -/
def Config.namesInUse (config : Config) : List String :=
  Policies.autolandTest.names ++
    config.policies.flatMap fun settings => settings.strategy.names

/-- The last policy of a configuration for a project and a purpose. -/
def Config.lastPolicy? (config : Config) (project purpose : String) :
    Option PolicySettings :=
  config.policies.reverse.find? fun settings =>
    settings.project = project ∧ settings.purpose = purpose

namespace PolicyKey

def Precedes (left right : PolicyKey) : Prop :=
  left.project < right.project ∨ left.project = right.project ∧
    left.purpose < right.purpose

theorem precedes_of_compare {left right : PolicyKey}
    (less : compare left right = .lt) : left.Precedes right := by
  -- The derived order compares the fields one after the other.
  have both : (compare left.project right.project).then
      (compare left.purpose right.purpose) =
      .lt := less
  rcases Ordering.then_eq_lt.mp both with project | ⟨sameProject, purpose⟩
  · exact .inl (compareOfLessAndEq_eq_lt.mp project)
  · exact .inr ⟨Std.LawfulEqOrd.eq_of_compare sameProject,
      compareOfLessAndEq_eq_lt.mp purpose⟩

end PolicyKey

namespace Policies

/-- The entry of a policy whose names are all registered. -/
def entry (registry : Registry) (settings : PolicySettings) :
    PolicyKey × Strategy :=
  (⟨settings.project, settings.purpose⟩,
    settings.strategy.assemble registry.pick)

/-- The built-in policy as if it were configured. -/
def builtinSettings : PolicySettings where
  project := "autoland"
  purpose := "test"
  strategy := autolandTest

/-- Puts policies into a table one after the other. -/
def fill (registry : Registry) (settings : List PolicySettings)
    (table : Policies) : Policies :=
  (settings.map (entry registry)).foldl
    (fun table entry => table.insert entry.1 entry.2) table

theorem add_eq (registry : Registry) (table : Policies)
    (settings : PolicySettings) :
    add registry table settings =
      match registry.unregistered? settings.strategy.names with
      | some name => .error (.unknown name)
      | none => .ok (fill registry [settings] table) := by
  rw [add, Spec.build_eq]
  cases registry.unregistered? settings.strategy.names with
  | some name => rfl
  | none => rfl

theorem foldlM_add (registry : Registry) (settings : List PolicySettings)
    (table : Policies) :
    settings.foldlM (add registry) table =
      match registry.unregistered?
        (settings.flatMap fun settings => settings.strategy.names) with
      | some name => .error (.unknown name)
      | none => .ok (fill registry settings table) := by
  induction settings generalizing table with
  | nil => rfl
  | cons head rest induction =>
      rw [List.foldlM_cons, add_eq, List.flatMap_cons,
        Registry.unregistered?_append]
      cases registry.unregistered? head.strategy.names with
      | some name => rfl
      | none => exact induction (fill registry [head] table)

/-- Making the table of policies fails at the first name that is not
registered. -/
theorem ofConfig_eq (config : Config) (registry : Registry) :
    ofConfig config registry =
      match registry.unregistered? config.namesInUse with
      | some name => .error (.unknown name)
      | none => .ok (fill registry (builtinSettings :: config.policies) ∅) := by
  have fold : ofConfig config registry =
      (builtinSettings :: config.policies).foldlM (add registry) ∅ := rfl
  rw [fold, foldlM_add]
  rfl

theorem ofConfig_ok_iff {config : Config} {registry : Registry}
    {policies : Policies} :
    ofConfig config registry = .ok policies ↔
      (∀ name ∈ config.namesInUse, registry.contains name = true) ∧
        policies = fill registry (builtinSettings :: config.policies) ∅ := by
  rw [ofConfig_eq, ← Registry.unregistered?_eq_none_iff]
  cases registry.unregistered? config.namesInUse with
  | some name => simp
  | none => simp [eq_comm]

theorem ofConfig_error_iff {config : Config} {registry : Registry}
    {error : StrategyError} :
    ofConfig config registry = .error error ↔
      ∃ name, registry.unregistered? config.namesInUse = some name ∧
        error = .unknown name := by
  rw [ofConfig_eq]
  cases registry.unregistered? config.namesInUse with
  | some name => simp [eq_comm]
  | none => simp

/-- In a filled table the last entry for a key applies. -/
theorem find?_fill (registry : Registry) (settings : List PolicySettings)
    (project purpose : String) :
    (fill registry settings ∅).find? ⟨project, purpose⟩ =
      (settings.reverse.find? fun settings =>
        settings.project = project ∧ settings.purpose = purpose).map
          fun settings => settings.strategy.assemble registry.pick := by
  rw [fill, Table.find?_foldl_insert, Table.find?_empty, Option.or_none,
    ← List.map_reverse, List.find?_map, Option.map_map]
  simp [entry, Function.comp_def]

theorem require_fill {config : Config} {registry : Registry}
    (registered : ∀ name ∈ config.namesInUse, registry.contains name = true)
    (project purpose : String) :
    (fill registry (builtinSettings :: config.policies) ∅).require project
      purpose =
      match config.lastPolicy? project purpose with
      | some settings => settings.strategy.build registry
      | none =>
          if project = "autoland" ∧ purpose = "test" then
            autolandTest.build registry
          else .error (.noPolicy project purpose) := by
  rw [require, find?_fill, List.reverse_cons, List.find?_append,
    ← Config.lastPolicy?]
  cases last : config.lastPolicy? project purpose with
  | some settings =>
      have member : settings ∈ config.policies := by
        simpa using List.mem_of_find?_eq_some last
      have builds : settings.strategy.build registry =
          .ok (settings.strategy.assemble registry.pick) := by
        apply Spec.build_of_registered
        intro name used
        apply registered
        exact List.mem_append_right
          _ (List.mem_flatMap.mpr ⟨settings, member, used⟩)
      simp [builds]
  | none =>
      have builds : autolandTest.build registry =
          .ok (autolandTest.assemble registry.pick) := by
        apply Spec.build_of_registered
        intro name used
        exact registered name (List.mem_append_left _ used)
      by_cases same : project = "autoland" ∧ purpose = "test"
      · obtain ⟨rfl, rfl⟩ := same
        rw [if_pos ⟨rfl, rfl⟩, builds]
        rfl
      · have other : ([builtinSettings].find? fun settings =>
            settings.project = project ∧ settings.purpose = purpose) =
              none := by
          apply List.find?_eq_none.mpr
          intro settings member
          obtain rfl := List.mem_singleton.mp member
          rw [decide_eq_true_iff]
          rintro ⟨rfl, rfl⟩
          exact same ⟨rfl, rfl⟩
        rw [if_neg same, other]
        rfl

/-- In a registry that was filled by calls a name stands for the first strategy
under it, a further call for a taken name fails and changes nothing, and the
names increase.  The table of policies can be made when every name in use is
registered; otherwise the first that is not is reported.  In the table the last
configured policy for a project and a purpose applies, or else the built-in
one. -/
theorem ofConfig_resolves (calls : List (String × Strategy)) :
    let registry := Registry.enroll calls
    (∀ name, registry.require name =
      match calls.find? fun call => call.1 = name with
      | some call => .ok call.2
      | none => .error (.unknown name)) ∧
    (∀ call : String × Strategy,
      if call.1 ∈ calls.map (·.1) then
        registry.register call.1 call.2 = .error (.duplicate call.1) ∧
          Registry.enroll (calls ++ [call]) = registry
      else
        registry.register call.1 call.2 =
          .ok (Registry.enroll (calls ++ [call]))) ∧
    (∀ name, name ∈ registry.keys ↔ name ∈ calls.map (·.1)) ∧
    registry.keys.Pairwise (· < ·) ∧
    ∀ config : Config,
      ((∃ policies, ofConfig config registry = .ok policies) ↔
        ∀ name ∈ config.namesInUse, registry.contains name = true) ∧
      (∀ error, ofConfig config registry = .error error ↔
        ∃ name, registry.unregistered? config.namesInUse = some name ∧
          error = .unknown name) ∧
      ∀ policies, ofConfig config registry = .ok policies →
        (∀ project purpose, policies.require project purpose =
          match config.lastPolicy? project purpose with
          | some settings => settings.strategy.build registry
          | none =>
              if project = "autoland" ∧ purpose = "test" then
                autolandTest.build registry
              else .error (.noPolicy project purpose)) ∧
        policies.keys.Pairwise PolicyKey.Precedes := by
  intro registry
  refine ⟨?_, ?_, ?_, registry.keys_increasing, ?_⟩
  · intro name
    rw [Registry.require, Registry.find?_enroll]
    cases calls.find? fun call => call.1 = name with
    | none => rfl
    | some call => rfl
  · intro call
    rw [Registry.enroll_append]
    by_cases taken : call.1 ∈ calls.map (·.1)
    · have contained : registry.contains call.1 = true :=
        (Registry.contains_enroll calls call.1).mpr taken
      rw [if_pos taken]
      exact ⟨Registry.register_taken call.2 contained,
        Registry.attempt_taken contained⟩
    · have free : registry.contains call.1 ≠ true :=
        mt (Registry.contains_enroll calls call.1).mp taken
      rw [if_neg taken]
      exact Registry.register_free free
  · intro name
    rw [Table.mem_keys_iff, Registry.contains_enroll]
  · intro config
    refine ⟨?_, fun error => ofConfig_error_iff, ?_⟩
    · constructor
      · rintro ⟨policies, made⟩
        exact (ofConfig_ok_iff.mp made).1
      · intro registered
        exact ⟨_, ofConfig_ok_iff.mpr ⟨registered, rfl⟩⟩
    · intro policies made
      obtain ⟨registered, rfl⟩ := ofConfig_ok_iff.mp made
      exact ⟨require_fill registered,
        (Table.keys_pairwise _).imp PolicyKey.precedes_of_compare⟩

/-- The name of a policy that a later one replaces must be registered too. -/
theorem ofConfig_resolves_replaced :
    let calls :=
      (autolandTest.names.map fun name => (name, Strategy.backstop)) ++
      [("mine", .debug), ("mine", .schedules)]
    let registry := Registry.enroll calls
    let policy := fun name => { builtinSettings with strategy := .named name }
    (∃ policies,
      ofConfig { policies := [policy "skip-unless-expanded", policy "mine"] }
        registry = .ok policies ∧ policies.require "autoland" "test" =
          .ok .debug) ∧
      ofConfig { policies := [policy "yours", policy "mine"] } registry =
        .error (.unknown "yours") := by
  intro calls registry policy
  obtain ⟨required, _, _, _, resolves⟩ := ofConfig_resolves calls
  constructor
  · obtain ⟨made, _, applies⟩ := resolves
      { policies := [policy "skip-unless-expanded", policy "mine"] }
    obtain ⟨policies, success⟩ := made.mpr (by decide +kernel)
    exact ⟨policies, success,
      ((applies policies success).1 "autoland" "test").trans
      (required "mine")⟩
  · obtain ⟨_, fails, _⟩ :=
      resolves { policies := [policy "yours", policy "mine"] }
    exact (fails _).mpr ⟨"yours", by decide +kernel, rfl⟩

end Policies

end TaskSieve
