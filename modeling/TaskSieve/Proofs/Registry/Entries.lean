import Mathlib.Data.List.Nodup
import Mathlib.Tactic.ByContra
import TaskSieve.Proofs.Config.Validity
import TaskSieve.Proofs.Table
import TaskSieve.Registry

/-!
# What the built-in registry holds

Names that are registered once each are all registered, every one with its own
strategy.  The built-in registry exists exactly when half the push interval is
positive and the configured threshold is a fraction, and under the name of
each predictor rule stands what this rule becomes.
-/

namespace TaskSieve

namespace Registry

theorem registerAll_cons (registry : Registry) (entry : String × Strategy)
    (rest : List (String × Strategy)) :
    registerAll registry (entry :: rest) =
      registry.register entry.1 entry.2 >>= fun registry =>
        registerAll registry rest := rfl

theorem register_new {registry : Registry} {name : String} (strategy : Strategy)
    (absent : registry.find? name = none) :
    registry.register name strategy = .ok (registry.insert name strategy) := by
  simp [register, Table.contains, absent]

theorem registerAll_distinct {entries : List (String × Strategy)}
    (distinct : (entries.map (·.1)).Nodup) (registry : Registry)
    (absent : ∀ entry ∈ entries, registry.find? entry.1 = none) :
    ∃ result, registerAll registry entries = .ok result ∧
      ∀ name strategy, result.find? name = some strategy ↔
        (name, strategy) ∈ entries ∨ registry.find? name = some strategy := by
  induction entries generalizing registry with
  | nil => exact ⟨registry, rfl, by simp⟩
  | cons entry rest induction =>
      obtain ⟨new, held⟩ := entry
      obtain ⟨newOutside, restDistinct⟩ := List.nodup_cons.mp distinct
      have restAbsent : ∀ entry ∈ rest,
          Table.find? (registry.insert new held) entry.1 = none := by
        intro entry member
        have different : entry.1 ≠ new := by
          intro same
          apply newOutside
          exact List.mem_map.mpr ⟨entry, member, same⟩
        rw [Table.find?_insert_of_ne _ _ different]
        exact absent entry (by simp [member])
      obtain ⟨result, registered, found⟩ :=
        induction restDistinct (registry.insert new held) restAbsent
      refine ⟨result, ?_, ?_⟩
      · rw [registerAll_cons, register_new held (absent (new, held) (by simp))]
        exact registered
      · intro name strategy
        rw [found, Table.find?_insert]
        by_cases same : name = new
        · subst same
          have missing := absent (name, held) (by simp)
          simp only at missing
          simp only [if_pos, List.mem_cons, Prod.mk.injEq, true_and, missing,
            Option.some.injEq]
          grind
        · simp [same]

theorem require_eq_ok_iff {registry : Registry} {name : String}
    {strategy : Strategy} :
    registry.require name = .ok strategy ↔
      registry.find? name = some strategy := by
  cases found : registry.find? name with
  | none => simp [require, found]
  | some held => simp [require, found]

namespace BuiltinRule

variable {rule : BuiltinRule} {projects : List String}

/-- The predictor rule of a built-in rule whose threshold is a fraction. -/
def predictor (rule : BuiltinRule) (projects : List String)
    (isFraction : rule.threshold.isFraction = true) : PredictorRule where
  selector := {
    threshold := rule.threshold
    tasksOnly := rule.tasksOnly
    reducedTasks := rule.reducedTasks
    isFraction }
  pushes := rule.pushes
  projects := some projects

/-- What a built-in rule with a fraction as threshold becomes. -/
def made (rule : BuiltinRule) (projects : List String)
    (isFraction : rule.threshold.isFraction = true) : Strategy :=
  if rule.fallback then
    .predictorOr (rule.predictor projects isFraction) .relevantTests
  else .predictor (rule.predictor projects isFraction)

theorem strategy_ok (isFraction : rule.threshold.isFraction = true)
    (window : rule.pushes ≠ 0) :
    rule.strategy projects = .ok (rule.made projects isFraction) := by
  simp only [strategy, PredictorRule.ofThreshold, Selector.ofThreshold,
    isFraction, PredictorRule.withPushes, window, dif_pos, if_neg,
    not_false_eq_true, pure, bind, Except.bind, Except.pure, made, predictor]

theorem strategy_error (projects : List String)
    (notFraction : rule.threshold.isFraction = false) :
    ∃ error, rule.strategy projects = .error error := by
  simp only [strategy, PredictorRule.ofThreshold, Selector.ofThreshold,
    notFraction, Bool.false_eq_true, dif_neg, not_false_eq_true, bind,
    Except.bind]
  exact ⟨_, rfl⟩

/-- Rules that can all be built give an entry each, under their own names. -/
theorem mapM_strategy_ok (projects : List String) {rules : List BuiltinRule}
    (valid : ∀ rule ∈ rules,
      rule.threshold.isFraction = true ∧ rule.pushes ≠ 0) :
    ∃ entries : List (String × Strategy),
      (rules.mapM fun rule => do
        return (rule.name, ← rule.strategy projects)) =
          Except.ok (ε := ConfigError) entries ∧
      entries.map (·.1) = rules.map (·.name) ∧
      ∀ entry ∈ entries, ∃ rule ∈ rules, ∃ isFraction,
        entry = (rule.name, rule.made projects isFraction) := by
  induction rules with
  | nil => exact ⟨[], rfl, rfl, by simp⟩
  | cons rule rest induction =>
      obtain ⟨isFraction, window⟩ := valid rule (by simp)
      obtain ⟨entries, builtRest, names, made⟩ :=
        induction fun other member => valid other (by simp [member])
      refine ⟨(rule.name, rule.made projects isFraction) :: entries, ?_,
        by simp [names], ?_⟩
      · rw [List.mapM_cons, strategy_ok isFraction window, builtRest]
        rfl
      · intro entry member
        rcases List.mem_cons.mp member with rfl | later
        · exact ⟨rule, by simp, isFraction, rfl⟩
        · obtain ⟨other, listed, same⟩ := made entry later
          exact ⟨other, by simp [listed], same⟩

end BuiltinRule

/-- The names of the built-in registry in the order in which they are
registered. -/
def builtinNames : List String :=
  ["skip-unless-backstop", "skip-unless-push-interval", "skip-unless-expanded",
    "skip-unless-debug", "skip-unless-schedules",
    "skip-unless-has-relevant-tests", "disperse-groups", "platform-disperse",
    "bugbug-push-schedules", "bugbug-low", "bugbug-medium", "bugbug-high",
    "bugbug-tasks-medium", "bugbug-tasks-high", "bugbug-reduced",
    "bugbug-reduced-high", "bugbug-reduced-fallback",
    "bugbug-reduced-manifests-fallback",
    "bugbug-reduced-manifests-fallback-last-10-pushes"]

theorem builtinNames_nodup : builtinNames.Nodup := by decide

theorem builtinRules_names_subset {config : Config} :
    (builtinRules config).map (·.name) ⊆ builtinNames := by
  simp [builtinRules, builtinNames]

theorem builtinRules_valid (config : Config)
    (fraction : config.selection.threshold.isFraction = true) :
    ∀ rule ∈ builtinRules config, rule.threshold.isFraction = true ∧
      rule.pushes ≠ 0 := by
  have low : (Binary64.tenths 7).isFraction = true := by decide
  have medium : (Binary64.tenths 8).isFraction = true := by decide
  have high : (Binary64.tenths 9).isFraction = true := by decide
  have lowest : (Binary64.tenths 3).isFraction = true := by decide
  simp [builtinRules, fraction, low, medium, high, lowest]

theorem make_ok {interval : Int} (positive : 0 < interval) :
    PushInterval.make interval = .ok ⟨interval, none, positive⟩ := by
  simp [PushInterval.make, positive]

theorem half_ok {interval : Int} (positive : 0 < interval / 2) :
    PushInterval.half interval = .ok ⟨interval / 2, none, positive⟩ := by
  have truncated : interval.tdiv 2 = interval / 2 :=
    Int.tdiv_eq_ediv_of_nonneg (by omega)
  unfold PushInterval.half
  rw [truncated, make_ok positive]

/-- What an entry of the built-in registry can be. -/
inductive BuiltinEntry (config : Config) : String × Strategy → Prop where
  | backstop : BuiltinEntry config ("skip-unless-backstop", .backstop)
  | pushInterval (gate : PushInterval) :
      BuiltinEntry config ("skip-unless-push-interval", .pushInterval gate)
  | expanded (positive : 0 < config.backstop.pushInterval / 2) :
      BuiltinEntry config
        ("skip-unless-expanded",
          .expanded ⟨config.backstop.pushInterval / 2, none, positive⟩)
  | contextual (entry : String × Strategy)
    (member : entry ∈ contextual config) :
      BuiltinEntry config entry
  | rule (rule : BuiltinRule) (listed : rule ∈ builtinRules config)
      (isFraction : rule.threshold.isFraction = true) :
      BuiltinEntry config
        (rule.name, rule.made config.predictor.projects isFraction)

variable {config : Config}

theorem gates_ok (interval : 2 ≤ config.backstop.pushInterval) :
    ∃ entries, gates config = .ok entries ∧
      entries.map (·.1) =
        ["skip-unless-backstop", "skip-unless-push-interval",
          "skip-unless-expanded"] ∧
      ∀ entry ∈ entries, BuiltinEntry config entry := by
  have positive : 0 < config.backstop.pushInterval := by omega
  have positiveHalf : 0 < config.backstop.pushInterval / 2 := by omega
  have built : ∃ gate, gates config = .ok [
      ("skip-unless-backstop", .backstop),
      ("skip-unless-push-interval", .pushInterval gate),
      ("skip-unless-expanded",
        .expanded ⟨config.backstop.pushInterval / 2, none, positiveHalf⟩)] := by
    unfold gates
    rw [make_ok positive, half_ok positiveHalf]
    exact ⟨_, rfl⟩
  obtain ⟨gate, equality⟩ := built
  refine ⟨_, equality, rfl, ?_⟩
  intro entry member
  simp only [List.mem_cons, List.not_mem_nil, or_false] at member
  rcases member with rfl | rfl | rfl
  · exact .backstop
  · exact .pushInterval gate
  · exact .expanded positiveHalf

theorem builtinEntries_ok (interval : 2 ≤ config.backstop.pushInterval)
    (fraction : config.selection.threshold.isFraction = true) :
    ∃ entries, builtinEntries config = .ok entries ∧
      entries.map (·.1) = builtinNames ∧
      ∀ entry ∈ entries, BuiltinEntry config entry := by
  obtain ⟨gates, gatesBuilt, gateNames, gatesBuiltin⟩ := gates_ok interval
  obtain ⟨rules, rulesBuilt, ruleNames, rulesBuiltin⟩ :=
    BuiltinRule.mapM_strategy_ok config.predictor.projects
      (builtinRules_valid config fraction)
  refine ⟨gates ++ contextual config ++ rules, ?_, ?_, ?_⟩
  · unfold builtinEntries
    rw [gatesBuilt, rulesBuilt]
    rfl
  · simp [gateNames, ruleNames, contextual, builtinRules, builtinNames]
  · intro entry member
    simp only [List.mem_append] at member
    rcases member with (gate | other) | ruled
    · exact gatesBuiltin entry gate
    · exact .contextual entry other
    · obtain ⟨rule, listed, isFraction, rfl⟩ := rulesBuiltin entry ruled
      exact .rule rule listed isFraction

theorem gates_error (interval : config.backstop.pushInterval < 2) :
    ∃ error, gates config = .error error := by
  have notPositive : ¬0 < config.backstop.pushInterval.tdiv 2 := by
    intro positive
    rw [Int.tdiv_eq_ediv] at positive
    split at positive
    · omega
    · have sign : Int.sign 2 = 1 := rfl
      rw [sign] at positive
      omega
  have halfFails : ∃ error, PushInterval.half config.backstop.pushInterval =
      .error error := by
    unfold PushInterval.half PushInterval.make
    rw [dif_neg notPositive]
    exact ⟨_, rfl⟩
  obtain ⟨error, failed⟩ := halfFails
  unfold gates
  cases PushInterval.make config.backstop.pushInterval with
  | error error => exact ⟨error, rfl⟩
  | ok every =>
      rw [failed]
      exact ⟨error, rfl⟩

theorem builtinEntries_error (invalid : config.backstop.pushInterval < 2 ∨
    config.selection.threshold.isFraction = false) :
    ∃ error, builtinEntries config = .error error := by
  unfold builtinEntries
  cases built : gates config with
  | error error => exact ⟨error, rfl⟩
  | ok entries =>
      rcases invalid with interval | notFraction
      · obtain ⟨error, failed⟩ := gates_error interval
        rw [failed] at built
        cases built
      · -- The first rule carries the configured threshold.
        obtain ⟨error, failed⟩ := @BuiltinRule.strategy_error
          { name := "bugbug-push-schedules",
            threshold := config.selection.threshold }
          config.predictor.projects notFraction
        refine ⟨error, ?_⟩
        simp only [builtinRules, List.mapM_cons, failed, bind, Except.bind]

theorem builtin_of_entries {entries : List (String × Strategy)}
    (built : builtinEntries config = .ok entries) :
    builtin config = (registerAll ∅ entries).mapError .strategy := by
  unfold builtin
  rw [built]
  rfl

/-- The built-in registry holds the built-in entries and nothing else. -/
theorem builtin_ok (interval : 2 ≤ config.backstop.pushInterval)
    (fraction : config.selection.threshold.isFraction = true) :
    ∃ registry, builtin config = .ok registry ∧
      (∀ name ∈ builtinNames, ∃ strategy, registry.find? name = some strategy) ∧
      ∀ name strategy, registry.find? name = some strategy →
        BuiltinEntry config (name, strategy) := by
  obtain ⟨entries, built, names, entriesBuiltin⟩ :=
    builtinEntries_ok interval fraction
  have distinct : (entries.map (·.1)).Nodup := names ▸ builtinNames_nodup
  obtain ⟨registry, registered, found⟩ :=
    registerAll_distinct distinct ∅ (by simp)
  have foundIff : ∀ name strategy, registry.find? name = some strategy ↔
      (name, strategy) ∈ entries := by
    simpa using found
  refine ⟨registry, ?_, ?_, ?_⟩
  · rw [builtin_of_entries built, registered]
    rfl
  · intro name member
    rw [← names] at member
    obtain ⟨entry, entryMember, rfl⟩ := List.mem_map.mp member
    exact ⟨entry.2, (foundIff _ _).mpr entryMember⟩
  · intro name strategy present
    exact entriesBuiltin _ ((foundIff name strategy).mp present)

/-- The built-in registry exists when half the push interval is positive and the
threshold is a fraction, and only then. -/
theorem exists_builtin_iff :
    (∃ registry, builtin config = .ok registry) ↔
      2 ≤ config.backstop.pushInterval ∧ config.selection.threshold.isFraction =
        true := by
  constructor
  · rintro ⟨registry, built⟩
    by_contra invalid
    have broken : config.backstop.pushInterval < 2 ∨
        config.selection.threshold.isFraction = false := by
      grind
    obtain ⟨error, failed⟩ := builtinEntries_error broken
    unfold builtin at built
    rw [failed] at built
    cases built
  · rintro ⟨interval, fraction⟩
    obtain ⟨registry, built, _⟩ := builtin_ok interval fraction
    exact ⟨registry, built⟩

theorem exists_builtin_of_check (valid : config.check = .ok ()) :
    ∃ registry, builtin config = .ok registry :=
  have guarantees := Config.guarantees_of_check valid
  exists_builtin_iff.mpr ⟨guarantees.interval, guarantees.threshold⟩

theorem find?_of_builtin {registry : Registry}
    (built : builtin config = .ok registry) :
    (∀ name ∈ builtinNames, ∃ strategy, registry.find? name = some strategy) ∧
      ∀ name strategy, registry.find? name = some strategy →
        BuiltinEntry config (name, strategy) := by
  obtain ⟨interval, fraction⟩ := exists_builtin_iff.mp ⟨registry, built⟩
  obtain ⟨same, sameBuilt, found⟩ := builtin_ok interval fraction
  rw [built] at sameBuilt
  cases sameBuilt
  exact found

theorem BuiltinEntry.eq_backstop {entry : String × Strategy}
    (builtin : BuiltinEntry config entry)
    (named : entry.1 = "skip-unless-backstop") : entry.2 = .backstop := by
  cases builtin with
  | backstop => rfl
  | pushInterval gate => simp at named
  | expanded positive => simp at named
  | contextual entry member =>
      have elsewhere :
          "skip-unless-backstop" ∉ (Registry.contextual config).map (·.1) := by
        simp [Registry.contextual]
      exact (elsewhere (named ▸ List.mem_map_of_mem member)).elim
  | rule rule listed isFraction =>
      have elsewhere := List.mem_map_of_mem (f := BuiltinRule.name) listed
      simp only at named
      rw [named] at elsewhere
      simp [builtinRules] at elsewhere

theorem BuiltinEntry.exists_half {entry : String × Strategy}
    (builtin : BuiltinEntry config entry)
    (named : entry.1 = "skip-unless-expanded") :
    ∃ half : PushInterval, entry.2 = .expanded half ∧ half.projects = none ∧
      half.interval = config.backstop.pushInterval / 2 := by
  cases builtin with
  | backstop => simp at named
  | pushInterval gate => simp at named
  | expanded positive => exact ⟨_, rfl, rfl, rfl⟩
  | contextual entry member =>
      have elsewhere :
          "skip-unless-expanded" ∉ (Registry.contextual config).map (·.1) := by
        simp [Registry.contextual]
      exact (elsewhere (named ▸ List.mem_map_of_mem member)).elim
  | rule rule listed isFraction =>
      have elsewhere := List.mem_map_of_mem (f := BuiltinRule.name) listed
      simp only at named
      rw [named] at elsewhere
      simp [builtinRules] at elsewhere

/-- Names of strategies that look at the task and its context stand for these
alone. -/
theorem BuiltinEntry.mem_contextual {entry : String × Strategy}
    (builtin : BuiltinEntry config entry)
    (named : entry.1 ∈ (Registry.contextual config).map (·.1)) :
    entry ∈ Registry.contextual config := by
  cases builtin with
  | backstop => simp [Registry.contextual] at named
  | pushInterval gate => simp [Registry.contextual] at named
  | expanded positive => simp [Registry.contextual] at named
  | contextual entry member => exact member
  | rule rule listed isFraction =>
      have elsewhere := List.mem_map_of_mem (f := BuiltinRule.name) listed
      simp only [Registry.contextual, List.map_cons, List.map_nil,
        List.mem_cons, List.not_mem_nil, or_false] at named
      rcases named with same | same | same | same | same
      all_goals
        rw [same] at elsewhere
        simp [builtinRules] at elsewhere

/-- Names of predictor rules stand for these alone. -/
theorem BuiltinEntry.exists_rule {entry : String × Strategy}
    (builtin : BuiltinEntry config entry)
    (named : entry.1 ∈ (builtinRules config).map (·.name)) :
    ∃ rule ∈ builtinRules config, rule.name = entry.1 ∧ ∃ isFraction,
      entry.2 = rule.made config.predictor.projects isFraction := by
  cases builtin with
  | backstop => simp [builtinRules] at named
  | pushInterval gate => simp [builtinRules] at named
  | expanded positive => simp [builtinRules] at named
  | contextual entry member =>
      simp only [Registry.contextual, List.mem_cons, List.not_mem_nil, or_false]
          at member
      rcases member with rfl | rfl | rfl | rfl | rfl
      all_goals simp [builtinRules] at named
  | rule rule listed isFraction => exact ⟨rule, listed, rfl, isFraction, rfl⟩

/-- Under the name of a built-in rule stands what this rule becomes. -/
theorem find?_of_rule {registry : Registry}
    (built : builtin config = .ok registry) {rule : BuiltinRule}
    (listed : rule ∈ builtinRules config) :
    ∃ isFraction, registry.find? rule.name =
      some (rule.made config.predictor.projects isFraction) := by
  obtain ⟨named, entries⟩ := find?_of_builtin built
  obtain ⟨strategy, found⟩ :=
    named rule.name (builtinRules_names_subset (List.mem_map_of_mem listed))
  obtain ⟨other, otherListed, sameName, isFraction, rfl⟩ :=
    (entries _ _ found).exists_rule (List.mem_map_of_mem listed)
  have distinct : ((builtinRules config).map (·.name)).Nodup := by
    simp [builtinRules]
  obtain rfl : other = rule :=
    List.inj_on_of_nodup_map distinct otherListed listed sameName
  exact ⟨isFraction, found⟩

/-- The two gates of the built-in policy. -/
theorem gates_of_builtin {registry : Registry}
    (built : builtin config = .ok registry) :
    ∃ half : PushInterval, registry.find? "skip-unless-backstop" =
      some .backstop ∧
      registry.find? "skip-unless-expanded" = some (.expanded half) ∧
      half.projects = none ∧
      half.interval = config.backstop.pushInterval / 2 := by
  obtain ⟨named, entries⟩ := find?_of_builtin built
  obtain ⟨first, firstFound⟩ := named "skip-unless-backstop" (by decide)
  obtain ⟨second, secondFound⟩ := named "skip-unless-expanded" (by decide)
  obtain rfl : first = .backstop := (entries _ first firstFound).eq_backstop rfl
  obtain ⟨half, rfl, everywhere, halved⟩ :=
    (entries _ second secondFound).exists_half rfl
  exact ⟨half, firstFound, secondFound, everywhere, halved⟩

end Registry

end TaskSieve
