import Mathlib.Data.List.Perm.Basic
import TaskSieve.Engine
import TaskSieve.Proofs.Binary64.Number
import TaskSieve.Proofs.Policy.Autoland
import TaskSieve.Proofs.Policy.Resolution

/-!
# What a valid configuration makes

The check of a configuration and the constructors that run later look at the
same settings on their own.  They agree: what passes the check also makes a
client and the whole built-in registry, and only a policy that names a strategy
outside the registry can still be refused.
-/

namespace TaskSieve

theorem Polling.exists_make_iff {interval timeout : Nat} :
    (∃ polling, make interval timeout = .ok polling) ↔ 0 < interval := by
  by_cases positive : 0 < interval
  · simp [make, positive]
  · simp [make, positive]

theorem PredictorSettings.retryInterval_pos_iff {settings : PredictorSettings} :
    0 < settings.retryInterval ↔ 1 ≤ settings.retrySeconds := by
  rw [retryInterval, Duration.ofSeconds]
  omega

namespace Registry

variable {config : Config} {registry : Registry}

theorem contextual_names_subset :
    (contextual config).map (·.1) ⊆ builtinNames := by
  simp [contextual, builtinNames]

theorem BuiltinEntry.mem_builtinNames {entry : String × Strategy}
    (builtin : BuiltinEntry config entry) : entry.1 ∈ builtinNames := by
  cases builtin with
  | backstop => simp [builtinNames]
  | pushInterval gate => simp [builtinNames]
  | expanded positive => simp [builtinNames]
  | contextual entry member =>
      exact contextual_names_subset (List.mem_map_of_mem member)
  | rule rule listed isFraction =>
      exact builtinRules_names_subset (List.mem_map_of_mem listed)

theorem contains_iff_of_builtin (built : builtin config = .ok registry)
    {name : String} : registry.contains name = true ↔ name ∈ builtinNames := by
  obtain ⟨named, entries⟩ := find?_of_builtin built
  rw [Table.contains, Option.isSome_iff_exists]
  constructor
  · rintro ⟨strategy, found⟩
    exact (entries name strategy found).mem_builtinNames
  · exact named name

/-- The built-in registry has each built-in name once and no other. -/
theorem keys_perm_of_builtin (built : builtin config = .ok registry) :
    registry.keys.Perm builtinNames := by
  apply (List.perm_ext_iff_of_nodup registry.keys_nodup builtinNames_nodup).mpr
  intro name
  rw [Table.mem_keys_iff, contains_iff_of_builtin built]

end Registry

namespace Policies

theorem autolandTest_names_subset :
    autolandTest.names ⊆ Registry.builtinNames := by
  simp [autolandTest, Spec.names, Spec.namesOfAll, Registry.builtinNames]

/-- In the built-in registry only a configured policy can use a name that is
missing. -/
theorem ofConfig_error_of_builtin {config : Config} {registry : Registry}
    (built : Registry.builtin config = .ok registry) {error : StrategyError}
    (fails : ofConfig config registry = .error error) :
    ∃ name, error = .unknown name ∧ registry.contains name = false ∧
      ∃ settings ∈ config.policies, name ∈ settings.strategy.names := by
  obtain ⟨name, missing, rfl⟩ := ofConfig_error_iff.mp fails
  have absent : registry.contains name = false := by
    simpa using List.find?_some missing
  refine ⟨name, rfl, absent, ?_⟩
  rcases List.mem_append.mp (List.mem_of_find?_eq_some missing) with
    builtinName | configured
  · have present : registry.contains name = true :=
      (Registry.contains_iff_of_builtin built).mpr
        (autolandTest_names_subset builtinName)
    rw [absent] at present
    cases present
  · exact List.mem_flatMap.mp configured

end Policies

/-- Once there are a client and a registry, an engine fails as the table of
policies does. -/
theorem Engine.ofConfig_error {server : Web.Server} {config : Config}
    {path : Option String} {polling : Polling} {registry : Registry}
    {failure : Failure} (polled : Polling.make config.predictor.retryInterval
      config.predictor.timeout = .ok polling)
    (built : Registry.builtin config = .ok registry)
    (fails : ofConfig server config path = .error failure) :
    ∃ error, failure = .strategy error ∧ Policies.ofConfig config registry =
      .error error := by
  have rest : ofConfig server config path =
      (Policies.ofConfig config registry).mapError Failure.strategy >>=
        fun policies =>
        .ok ⟨config, path, ⟨Web.environment server config.predictor, polling⟩,
          registry, policies⟩ := by
    rw [ofConfig, polled, built]
    rfl
  rw [rest] at fails
  cases made : Policies.ofConfig config registry with
  | ok policies =>
      rw [made] at fails
      cases fails
  | error error =>
      rw [made] at fails
      cases fails
      exact ⟨error, rfl, rfl⟩

namespace Config

/-- The built-in registry can be made when the push interval is at least two and
the threshold is a number between 0 and 1, and only then; the client when
requests are at least a second apart.  So a valid configuration makes both, with
every built-in name and the built-in policy, and only a name of a configured
policy that is not registered is refused later. -/
theorem makes_of_check (config : Config) :
    ((∃ registry, Registry.builtin config = .ok registry) ↔
      2 ≤ config.backstop.pushInterval ∧
      config.selection.threshold.isFinite = true ∧
        0 ≤ config.selection.threshold.number ∧
        config.selection.threshold.number ≤ 1) ∧
    ((∃ polling,
      Polling.make config.predictor.retryInterval config.predictor.timeout =
        .ok polling) ↔ 1 ≤ config.predictor.retrySeconds) ∧
    (config.check = .ok () →
      (∃ polling,
        Polling.make config.predictor.retryInterval config.predictor.timeout =
        .ok polling) ∧
      ∃ registry, Registry.builtin config = .ok registry ∧
        registry.keys.Perm Registry.builtinNames ∧
        (∃ policy, Policies.IsAutolandTest registry policy) ∧
        (∀ error, Policies.ofConfig config registry = .error error →
          ∃ name, error = .unknown name ∧ registry.contains name = false ∧
            ∃ settings ∈ config.policies, name ∈ settings.strategy.names) ∧
        ∀ server path failure, Engine.ofConfig server config path =
          .error failure →
          ∃ error, failure = .strategy error ∧
            Policies.ofConfig config registry = .error error) := by
  have pollingIff : (∃ polling, Polling.make config.predictor.retryInterval
      config.predictor.timeout = .ok polling) ↔
      1 ≤ config.predictor.retrySeconds := by
    rw [Polling.exists_make_iff, PredictorSettings.retryInterval_pos_iff]
  refine ⟨?_, pollingIff, ?_⟩
  · rw [Registry.exists_builtin_iff, Binary64.isFraction_iff]
  · intro valid
    obtain ⟨polling, polled⟩ := pollingIff.mpr (guarantees_of_check valid).retry
    obtain ⟨registry, built⟩ := Registry.exists_builtin_of_check valid
    obtain ⟨half, scheduling, single, window, dispersal, parts, _⟩ :=
      Policies.HoldsParts.of_builtin built
    refine ⟨⟨polling, polled⟩, registry, built,
      Registry.keys_perm_of_builtin built, ⟨_, parts.isAutolandTest⟩, ?_, ?_⟩
    · intro error fails
      exact Policies.ofConfig_error_of_builtin built fails
    · intro server path failure fails
      exact Engine.ofConfig_error polled built fails

/-- A policy that names an unknown strategy passes the check and is refused
later. -/
theorem makes_of_check_without_policy :
    let settings : PolicySettings :=
      { project := "try", purpose := "test", strategy := .not (.named "mine") }
    ({ policies := [settings] } : Config).check = .ok () ∧
      ∃ registry, Registry.builtin { policies := [settings] } = .ok registry ∧
        Policies.ofConfig { policies := [settings] } registry =
          .error (.unknown "mine") := by
  intro settings
  have valid : ({ policies := [settings] } : Config).check = .ok () := by
    have checked : ({ policies := [settings] } : Config).check.toOption =
        some () := by
      decide +kernel
    cases outcome : ({ policies := [settings] } : Config).check with
    | ok _ => rfl
    | error error => simp [outcome, Except.toOption] at checked
  obtain ⟨_, registry, built, names, _, refused, _⟩ :=
    (makes_of_check { policies := [settings] }).2.2 valid
  refine ⟨valid, registry, built, ?_⟩
  cases made : Policies.ofConfig { policies := [settings] } registry with
  | ok policies =>
      obtain ⟨registered, _⟩ := Policies.ofConfig_ok_iff.mp made
      have listed :=
        registered "mine" (by simp [namesInUse, settings, Spec.names])
      rw [← Table.mem_keys_iff, names.mem_iff] at listed
      simp [Registry.builtinNames] at listed
  | error error =>
      obtain ⟨name, rfl, _, used⟩ := refused error made
      simp [settings, Spec.names] at used
      rw [used]

end Config

end TaskSieve
