import TaskSieve.Config.Codec
import TaskSieve.Proofs.Datum.Reading
import TaskSieve.Proofs.Spec.Writing

/-!
# Writing configurations down

A written configuration is read as the same configuration.  The defaults of the
reader never come in between: a setting is left out only if it is absent and
absent by default, and an absent key is written down.
-/

namespace TaskSieve

open Datum Decoder

-- What a record says is stated before it is decoded.  A decoder is never
-- evaluated on a number of the record, which would be compared with the limit
-- of its word step by step.

theorem PredictorSettings.decode_encode {settings : PredictorSettings}
    (timeout : settings.timeoutSeconds < Word.count)
    (retry : settings.retrySeconds < Word.count) :
    decode settings.encode = some settings := by
  obtain ⟨fields, given, url, key, timeoutGiven, retryGiven, projects⟩ :
      ∃ fields,
      fieldsOf names settings.encode = some fields ∧
      lastField? "base_url" fields = some (.text settings.baseUrl) ∧
      lastField? "api_key" fields = some (ofOption .text settings.apiKey) ∧
      lastField? "timeout_secs" fields = some (.int settings.timeoutSeconds) ∧
      lastField? "retry_interval_secs" fields =
        some (.int settings.retrySeconds) ∧
      lastField? "projects" fields = some (ofNames settings.projects) :=
    ⟨_, fieldsOf_record (.refl _) (by decide), rfl, rfl, rfl, rfl, rfl⟩
  simp [decode, given, withDefault, url, key, timeoutGiven,
    unsigned_int timeout, retryGiven, unsigned_int retry, projects]

theorem PushLogSettings.decode_encode {settings : PushLogSettings}
    (timeout : settings.timeoutSeconds < Word.count) :
    decode settings.encode = some settings := by
  obtain ⟨fields, given, timeoutGiven⟩ : ∃ fields,
      fieldsOf names settings.encode = some fields ∧
      lastField? "timeout_secs" fields = some (.int settings.timeoutSeconds) :=
    ⟨_, fieldsOf_record (.refl _) (by decide), rfl⟩
  simp [decode, given, withDefault, timeoutGiven, unsigned_int timeout]

theorem BackstopSettings.decode_encode {settings : BackstopSettings}
    (interval : Word.isSigned settings.pushInterval = true) :
    decode settings.encode = some settings := by
  obtain ⟨pushInterval, removeOnProjects⟩ := settings
  cases removeOnProjects with
  | none =>
      obtain ⟨fields, given, intervalGiven, nothing⟩ : ∃ fields,
          fieldsOf names (encode ⟨pushInterval, none⟩) = some fields ∧
          lastField? "push_interval" fields = some (.int pushInterval) ∧
          lastField? "remove_on_projects" fields = none :=
        ⟨_, fieldsOf_record (.cons_cons _ (List.nil_sublist _)) (by decide),
          rfl, rfl⟩
      simp [decode, given, withDefault, intervalGiven, signed_int interval,
        nothing]
  | some projects =>
      obtain ⟨fields, given, intervalGiven, projectsGiven⟩ : ∃ fields,
          fieldsOf names (encode ⟨pushInterval, some projects⟩) = some fields ∧
          lastField? "push_interval" fields = some (.int pushInterval) ∧
          lastField? "remove_on_projects" fields =
            some (ofOption ofNames (some projects)) :=
        ⟨_, fieldsOf_record (.refl _) (by decide), rfl, rfl⟩
      simp [decode, given, withDefault, intervalGiven, signed_int interval,
        projectsGiven]

theorem SelectionSettings.decode_encode (settings : SelectionSettings) :
    decode settings.encode = some settings := by
  obtain ⟨fields, given, threshold⟩ : ∃ fields,
      fieldsOf names settings.encode = some fields ∧
      lastField? "default_threshold" fields = some (.real settings.threshold) :=
    ⟨_, fieldsOf_record (.refl _) (by decide), rfl⟩
  simp [decode, given, withDefault, threshold]

theorem Targets.decode_encode (targets : Targets) :
    decode targets.encode = some targets := by
  obtain ⟨fields, given, lowGiven, mediumGiven, highGiven, unseenGiven⟩ :
      ∃ fields,
      fieldsOf names targets.encode = some fields ∧
      lastField? "low" fields = some (.int targets.low.toNat) ∧
      lastField? "medium" fields = some (.int targets.medium.toNat) ∧
      lastField? "high" fields = some (.int targets.high.toNat) ∧
      lastField? "unseen_modifier" fields =
        some (.int targets.unseen.toNat) :=
    ⟨_, fieldsOf_record (.refl _) (by decide), rfl, rfl, rfl, rfl⟩
  simp [decode, given, withDefault, lowGiven, mediumGiven, highGiven,
    unseenGiven, word_int]

theorem PolicySettings.decode_encode {settings : PolicySettings} {levels : Nat}
    (deep : settings.strategy.encode.depth ≤ levels) :
    decode levels settings.encode = some settings := by
  obtain ⟨fields, given, project, purpose, strategy⟩ : ∃ fields,
      fieldsOf names settings.encode = some fields ∧
      lastField? "project" fields = some (.text settings.project) ∧
      lastField? "purpose" fields = some (.text settings.purpose) ∧
      lastField? "strategy" fields = some settings.strategy.encode :=
    ⟨_, fieldsOf_record (.refl _) (by decide), rfl, rfl, rfl⟩
  simp [decode, given, required, project, purpose, strategy,
    Spec.decode_encode deep]

namespace Config

/-- The words of the settings hold their numbers: a signed one the push
interval, unsigned ones the times. -/
structure FitsWords (config : Config) : Prop where
  timeout : config.predictor.timeoutSeconds < Word.count
  retry : config.predictor.retrySeconds < Word.count
  pushLogTimeout : config.pushLog.timeoutSeconds < Word.count
  pushInterval : Word.isSigned config.backstop.pushInterval = true

variable {config : Config}

/-- The trees of the policies are three levels below the configuration. -/
theorem depth_strategy_le {policy : PolicySettings}
    (member : policy ∈ config.policies) :
    policy.strategy.encode.depth + 3 ≤ config.encode.depth := by
  have inPolicy : policy.strategy.encode.depth < policy.encode.depth :=
    depth_lt_record "strategy" (by simp)
  have inPolicies : policy.encode.depth <
      (Datum.list (config.policies.map PolicySettings.encode)).depth :=
    depth_lt_list (List.mem_map_of_mem member)
  have inConfig :
      (Datum.list (config.policies.map PolicySettings.encode)).depth <
      config.encode.depth :=
    depth_lt_record "policies" (by simp)
  omega

theorem isJson_encode (words : config.FitsWords)
    (finite : config.selection.threshold.isFinite = true) :
    config.encode.isJson = true := by
  have predictor : config.predictor.encode.isJson = true := by
    simp [PredictorSettings.encode, haveJson, isJson_unsigned words.timeout,
      isJson_unsigned words.retry, isJson_ofOption isJson_text]
  have pushLog : config.pushLog.encode.isJson = true := by
    simp [PushLogSettings.encode, haveJson,
      isJson_unsigned words.pushLogTimeout]
  have backstop : config.backstop.encode.isJson = true := by
    cases projects : config.backstop.removeOnProjects with
    | none =>
        simp [BackstopSettings.encode, haveJson, projects,
          isJson_signed words.pushInterval]
    | some names =>
        simp [BackstopSettings.encode, haveJson, projects,
          isJson_signed words.pushInterval]
  have dispersal : config.dispersal.encode.isJson = true := by
    simp [Targets.encode, haveJson, isJson_unsigned (Word.toNat_lt_count _)]
  have policies : areJson (config.policies.map PolicySettings.encode) =
      true := by
    rw [areJson_iff]
    intro item member
    obtain ⟨policy, _, rfl⟩ := List.mem_map.mp member
    simp [PolicySettings.encode, haveJson, Spec.isJson_encode]
  simp [encode, haveJson, predictor, pushLog, backstop,
    SelectionSettings.encode, finite, dispersal, policies]

/-- A configuration within its words and with a finite threshold is written in
JSON and read back as it was, by each reader that follows as many levels as it
has.  What is absent stays absent, what is empty stays empty, and each composite
of a policy keeps its constructor. -/
theorem encode_reads_back (words : config.FitsWords)
    (finite : config.selection.threshold.isFinite = true) :
    config.encode.isJson = true ∧
      ∀ levels, config.encode.depth ≤ levels →
        decode levels config.encode = some config := by
  refine ⟨isJson_encode words finite, ?_⟩
  intro levels deep
  obtain ⟨fields, given, predictor, pushLog, backstop, selection, dispersal,
      policies⟩ :
      ∃ fields, fieldsOf names config.encode = some fields ∧
        lastField? "predictor" fields = some config.predictor.encode ∧
        lastField? "pushlog" fields = some config.pushLog.encode ∧
        lastField? "backstop" fields = some config.backstop.encode ∧
        lastField? "selection" fields = some config.selection.encode ∧
        lastField? "dispersal" fields = some config.dispersal.encode ∧
        lastField? "policies" fields =
          some (.list (config.policies.map PolicySettings.encode)) :=
    ⟨_, fieldsOf_record (.refl _) (by decide), rfl, rfl, rfl, rfl, rfl, rfl⟩
  have policiesRead : Decoder.list (PolicySettings.decode (levels - 3))
      (.list (config.policies.map PolicySettings.encode)) =
        some config.policies := by
    apply list_map
    intro policy member
    have nested := depth_strategy_le member
    exact PolicySettings.decode_encode (by omega)
  simp [decode, given, withDefault, predictor, pushLog, backstop, selection,
    dispersal, policies,
    PredictorSettings.decode_encode words.timeout words.retry,
    PushLogSettings.decode_encode words.pushLogTimeout,
    BackstopSettings.decode_encode words.pushInterval,
    SelectionSettings.decode_encode, Targets.decode_encode, policiesRead]

/-- A configuration without a key, with an empty list of projects, and with a
policy whose composites have no children or several. -/
theorem encode_reads_back_without_children :
    let config : Config :=
      { predictor := { apiKey := none }
        backstop := { removeOnProjects := some [] }
        policies := [⟨"autoland", "test",
          .any [.all [], .not (.any []), .named "bugbug"]⟩] }
    config.encode.isJson = true ∧ decode 127 config.encode = some config := by
  intro config
  have words : config.FitsWords := by
    constructor <;> decide
  have finite : config.selection.threshold.isFinite = true := by decide
  have deep : config.encode.depth ≤ 127 := by decide
  obtain ⟨json, reads⟩ := encode_reads_back words finite
  exact ⟨json, reads 127 deep⟩

end Config

end TaskSieve
