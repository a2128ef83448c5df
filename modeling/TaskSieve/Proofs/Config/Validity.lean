import TaskSieve.Config.Check

/-!
# What a valid configuration guarantees

The check of a configuration goes through its parts in order and stops at the
first fault.  So in a valid one every part passes, and what is later built from
its settings finds them in order.
-/

namespace TaskSieve

theorem ok_of_checks {ε : Type} {first second : Except ε Unit}
    (valid : (first >>= fun _ => second) = .ok ()) :
    first = .ok () ∧ second = .ok () := by
  cases first with
  | error error => cases valid
  | ok _ => exact ⟨rfl, valid⟩

theorem PredictorSettings.retrySeconds_pos_of_check
    {settings : PredictorSettings} (valid : settings.check = .ok ()) :
    1 ≤ settings.retrySeconds := by
  unfold check at valid
  split at valid
  · cases valid
  · split at valid
    · cases valid
    · omega

theorem BackstopSettings.two_le_pushInterval_of_check
    {settings : BackstopSettings} (valid : settings.check = .ok ()) :
    2 ≤ settings.pushInterval := by
  unfold check at valid
  split at valid
  · cases valid
  · omega

theorem isFraction_of_checkThreshold {field : String} {threshold : Binary64}
    (valid : checkThreshold field threshold = .ok ()) :
    threshold.isFraction = true := by
  unfold checkThreshold at valid
  split at valid
  · assumption
  · cases valid

theorem PolicySettings.faultless_of_check {index : Nat}
    {settings : PolicySettings} (valid : settings.check index = .ok ()) :
    settings.strategy.fault? = none := by
  unfold check at valid
  split at valid
  · cases valid
  · split at valid
    · cases valid
    · cases fault : settings.strategy.fault? with
      | none => rfl
      | some fault => simp [fault] at valid

theorem faultless_of_checkPolicies {index : Nat}
    {policies : List PolicySettings}
    (valid : checkPolicies index policies = .ok ()) :
    ∀ policy ∈ policies, policy.strategy.fault? = none := by
  induction policies generalizing index with
  | nil => simp
  | cons policy rest induction =>
      rw [checkPolicies] at valid
      cases checked : policy.check index with
      | error error => simp [checked] at valid
      | ok _ =>
          simp only [checked] at valid
          simpa
            using ⟨PolicySettings.faultless_of_check checked, induction valid⟩

/-- What the check guarantees to whoever builds from a configuration. -/
structure Config.Guarantees (config : Config) : Prop where
  retry : 1 ≤ config.predictor.retrySeconds
  interval : 2 ≤ config.backstop.pushInterval
  threshold : config.selection.threshold.isFraction = true
  faultless : ∀ policy ∈ config.policies, policy.strategy.fault? = none

theorem Config.guarantees_of_check {config : Config}
    (valid : config.check = .ok ()) : config.Guarantees := by
  obtain ⟨predictor, validRest⟩ := ok_of_checks valid
  obtain ⟨backstop, validLast⟩ := ok_of_checks validRest
  obtain ⟨threshold, policies⟩ := ok_of_checks validLast
  exact {
    retry := PredictorSettings.retrySeconds_pos_of_check predictor
    interval := BackstopSettings.two_le_pushInterval_of_check backstop
    threshold := isFraction_of_checkThreshold threshold
    faultless := faultless_of_checkPolicies policies }

end TaskSieve
