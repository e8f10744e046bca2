import FaultInjection.Assertions.StopLimits
import FaultInjection.Injectors.ValueReaders

/-
  Which numbers validation admits.

  A bound is checked by a comparison that rejects, and no
  comparison with not-a-number holds. So not-a-number passes
  every bound, and an infinity passes on a side without one.

  Key definitions include:
    * `ReadsInBounds`
    * `ReadsNonFinite`
    * `NumbersHold`
    * `UsesNonFinite`

  Key theorems include:
    * `accepted_double_iff_readsInBounds_iff`
    * `numbersHold_iff_of_ok`
    * `admitted_numbers_finite_iff`
-/

open NumberText

------------------------------------------------------------
-- Values Of Fields
------------------------------------------------------------

/-
  The whole text reads as a finite number between the bounds
  that the field declares.
-/
def ReadsInBounds
    (field : FaultConfigField)
    (text : String) : Prop :=
  ∃ q,
    parsedNumber field text = some (.finite q) ∧
      (∀ low, field.minValue = some low → low ≤ q) ∧
        ∀ high, field.maxValue = some high → q ≤ high

/-
  A text for a double that reads as not-a-number, or as an
  infinity on a side without a bound.
-/
def ReadsNonFinite
    (field : FaultConfigField)
    (text : String) : Prop :=
  field.type = "double" ∧
    (parseDouble text = some .nan ∨
      (parseDouble text = some .posInf ∧
        field.maxValue = none) ∨
        (parseDouble text = some .negInf ∧
          field.minValue = none))

/- Only an upper bound keeps infinity out. -/
theorem validateBounds_posInf_eq_none_iff
    (field : FaultConfigField) :
    validateBounds field .posInf = none ↔
      field.maxValue = none := by
  rw [validateBounds_eq_none_iff,
    Option.eq_none_iff_forall_ne_some]
  simp only [Number.lt, implies_true, true_and,
    Bool.true_eq_false]

theorem validateBounds_negInf_eq_none_iff
    (field : FaultConfigField) :
    validateBounds field .negInf = none ↔
      field.minValue = none := by
  rw [validateBounds_eq_none_iff,
    Option.eq_none_iff_forall_ne_some]
  simp only [Number.lt, implies_true, and_true,
    Bool.true_eq_false]

theorem parsedNumber_int
    {field : FaultConfigField}
    (hType : field.type = "int")
    (text : String) :
    parsedNumber field text =
      (parseInt text).map fun n : Int => .finite n := by
  unfold parsedNumber
  rw [if_pos hType]
  cases parseInt text with
  | none => rfl
  | some n => rfl

/- Exactly the integers between the bounds are accepted. -/
theorem accepted_int_iff_readsInBounds
    {field : FaultConfigField}
    (hType : field.type = "int")
    (text : String) :
    validateConfigValue field text = none ↔
      ReadsInBounds field text := by
  rw [accepted_int_iff hType]
  unfold ReadsInBounds
  rw [parsedNumber_int hType]
  constructor
  · rintro ⟨n, hParse, hBounds⟩
    rw [validateBounds_finite_eq_none_iff] at hBounds
    refine ⟨n, ?_, hBounds⟩
    rw [hParse]
    rfl
  · rintro ⟨q, hParse, hBounds⟩
    rcases Option.map_eq_some_iff.mp hParse with ⟨n, hN, hSame⟩
    rw [Number.finite.injEq] at hSame
    refine ⟨n, hN, ?_⟩
    rw [validateBounds_finite_eq_none_iff, hSame]
    exact hBounds

/-
  Exactly the finite numbers between the bounds are accepted
  unless the text reads as a number that is not finite and
  that no bound keeps out.
-/
theorem accepted_double_iff_readsInBounds_iff
    {field : FaultConfigField}
    (hType : field.type = "double")
    (text : String) :
    (validateConfigValue field text = none ↔
        ReadsInBounds field text) ↔
      ¬ ReadsNonFinite field text := by
  have hNotInt : field.type ≠ "int" := by
    rw [hType]
    decide
  rw [accepted_double_iff hType]
  unfold ReadsInBounds ReadsNonFinite parsedNumber
  rw [if_neg hNotInt]
  simp only [hType, true_and]
  cases parseDouble text with
  | none => simp
  | some x =>
      cases x with
      | finite q =>
          simp [validateBounds_finite_eq_none_iff]
      | posInf => simp [validateBounds_posInf_eq_none_iff]
      | negInf => simp [validateBounds_negInf_eq_none_iff]
      | nan => simp [validateBounds_eq_none_iff]

------------------------------------------------------------
-- Numbers Of Assertions
------------------------------------------------------------

/- The number is set, finite and greater than zero. -/
def SetPositive (value : Option Number) : Prop :=
  ∃ q : ℚ, value = some (.finite q) ∧ 0 < q

/- The number is set, finite and not negative. -/
def SetNonNegative (value : Option Number) : Prop :=
  ∃ q : ℚ, value = some (.finite q) ∧ 0 ≤ q

/- The number is not set, or finite and not negative. -/
def UnsetOrNonNegative (value : Option Number) : Prop :=
  ∀ x, value = some x → ∃ q : ℚ, x = .finite q ∧ 0 ≤ q

/- The number is set and not finite. -/
def SetNonFinite (value : Option Number) : Prop :=
  ∃ x, value = some x ∧ x.isFinite = false

/- The largest gap is finite, positive and below a duration. -/
def SetBelow (gap duration : Option Number) : Prop :=
  ∃ p q : ℚ,
    gap = some (.finite p) ∧
      duration = some (.finite q) ∧ 0 < p ∧ p < q

/-
  Each number that the type of the assertion uses is finite
  and within the bound that is stated for it.
-/
def NumbersHold (assertion : AssertionConfig) : Prop :=
  (assertion.type = "fault_event" →
    UnsetOrNonNegative assertion.within) ∧
    (assertion.type = "topic_hz" →
      SetPositive assertion.minHz ∧
        SetPositive assertion.window ∧
          UnsetOrNonNegative assertion.within) ∧
      (assertion.type = "twist_stopped" →
        SetPositive assertion.triggerWithin ∧
          SetPositive assertion.within ∧
            SetPositive assertion.duration ∧
              SetNonNegative assertion.linearTolerance ∧
                SetNonNegative assertion.angularTolerance ∧
                  SetBelow assertion.maxGap
                    assertion.duration)

/-
  An assertion about a fault event or a rate uses a number
  that is not finite.
-/
def UsesNonFinite (assertion : AssertionConfig) : Prop :=
  (assertion.type = "fault_event" ∧
    SetNonFinite assertion.within) ∨
    (assertion.type = "topic_hz" ∧
      (SetNonFinite assertion.minHz ∨
        SetNonFinite assertion.window ∨
          SetNonFinite assertion.within))

/- Not being at most zero is being positive if finite. -/
theorem setPositive_iff_of_ok
    {assertion : AssertionConfig}
    {name : String}
    {value : Option Number}
    (hOk :
      (requireGreaterThanZero assertion name value).ok =
        true) :
    SetPositive value ↔ ¬ SetNonFinite value := by
  unfold requireGreaterThanZero at hOk
  unfold SetPositive SetNonFinite
  cases value with
  | none => cases hOk
  | some x =>
      rw [ok_errorIf] at hOk
      cases x with
      | finite q =>
          have hPositive : 0 < q := by
            simpa [Number.le, Number.zero] using hOk
          simp [Number.isFinite, hPositive]
      | posInf => simp [Number.isFinite]
      | negInf => simp [Number.isFinite]
      | nan => simp [Number.isFinite]

/- Not being negative is being at least zero if finite. -/
theorem unsetOrNonNegative_iff_of_ok
    {value : Option Number}
    (hOk : (value.any fun x => x.lt .zero) = false) :
    UnsetOrNonNegative value ↔ ¬ SetNonFinite value := by
  unfold UnsetOrNonNegative SetNonFinite
  cases value with
  | none => simp
  | some x =>
      cases x with
      | finite q =>
          have hNonNegative : 0 ≤ q := by
            simpa [Number.lt, Number.zero] using hOk
          simp [Number.isFinite, hNonNegative]
      | posInf => simp [Number.isFinite]
      | negInf => simp [Number.isFinite]
      | nan => simp [Number.isFinite]

theorem setPositive_of_ok
    {assertion : AssertionConfig}
    {name : String}
    {value : Option Number}
    (hOk :
      (requireFinitePositive assertion name value).ok =
        true) :
    SetPositive value :=
  ⟨_, StopLimits.pos_of_requireFinitePositive hOk⟩

theorem setNonNegative_of_ok
    {assertion : AssertionConfig}
    {name : String}
    {value : Option Number}
    (hOk :
      (requireFiniteNonNegative assertion name value).ok =
        true) :
    SetNonNegative value := by
  have hValue :=
    StopLimits.value_of_requireFiniteNonNegative hOk
  refine ⟨_, hValue, ?_⟩
  rw [hValue, requireFiniteNonNegative, ok_errorIf] at hOk
  simpa [Number.isFinite, Number.lt, Number.zero] using hOk

theorem setBelow_of_ok
    {assertion : AssertionConfig}
    (hDuration : SetPositive assertion.duration)
    (hOk : (validateMaxGap assertion).ok = true) :
    SetBelow assertion.maxGap assertion.duration := by
  rcases hDuration with ⟨q, hDuration, _⟩
  have hGap := StopLimits.value_of_validateMaxGap hOk
  refine ⟨_, q, hGap, hDuration, ?_⟩
  rw [validateMaxGap, hGap, hDuration] at hOk
  simp only [Number.isFinite, Number.le, Number.zero,
    not_true_eq_false, false_or, decide_eq_true_eq] at hOk
  by_cases hLow : StopLimits.value assertion.maxGap ≤ 0
  · rw [if_pos hLow] at hOk
    cases hOk
  · rw [if_neg hLow, ok_errorIf] at hOk
    refine ⟨not_le.mp hLow, ?_⟩
    simpa using hOk

section Accepted

variable {scenario : ScenarioConfig}
variable {assertion : AssertionConfig}

theorem numbersHold_iff_of_faultEvent
    (hOk :
      (validateAssertions scenario assertion).ok = true)
    (hType : assertion.type = "fault_event") :
    NumbersHold assertion ↔ ¬ UsesNonFinite assertion := by
  unfold validateAssertions validateAssertionTimes at hOk
  simp only [hType, String.reduceEq, if_false, if_true,
    ValidationResult.ok_append, ok_errorIf] at hOk
  unfold NumbersHold UsesNonFinite
  simp only [hType, String.reduceEq, true_and, false_and,
    or_false, forall_const, false_implies, and_true]
  exact unsetOrNonNegative_iff_of_ok hOk.2.2.1

theorem numbersHold_iff_of_topicHz
    (hOk :
      (validateAssertions scenario assertion).ok = true)
    (hType : assertion.type = "topic_hz") :
    NumbersHold assertion ↔ ¬ UsesNonFinite assertion := by
  unfold validateAssertions validateAssertionTimes
    validateTopicHz at hOk
  simp only [hType, String.reduceEq, if_false, if_true,
    ValidationResult.ok_append, ok_errorIf] at hOk
  rcases hOk with
    ⟨_, ⟨⟨⟨⟨_, hMinHz⟩, hWindow⟩, _⟩, _⟩, hWithin, _⟩
  unfold NumbersHold UsesNonFinite
  simp only [hType, String.reduceEq, true_and, false_and,
    false_or, forall_const, false_implies, and_true, not_or]
  rw [setPositive_iff_of_ok hMinHz,
    setPositive_iff_of_ok hWindow,
    unsetOrNonNegative_iff_of_ok hWithin]

theorem numbersHold_of_twistStopped
    (hOk :
      (validateAssertions scenario assertion).ok = true)
    (hType : assertion.type = "twist_stopped") :
    NumbersHold assertion ↔ ¬ UsesNonFinite assertion := by
  unfold validateAssertions validateTwistStopped at hOk
  simp only [hType, String.reduceEq, if_false, if_true,
    ValidationResult.ok_append] at hOk
  rcases hOk with
    ⟨_, ⟨⟨⟨⟨⟨⟨⟨_, hTrigger⟩, hWithin⟩, _⟩, hDuration⟩,
      hLinear⟩, hAngular⟩, hGap⟩, _⟩
  have hPositive := setPositive_of_ok hDuration
  unfold NumbersHold UsesNonFinite
  simp only [hType, String.reduceEq, true_and, false_and,
    or_false, forall_const, false_implies, not_false_eq_true,
    iff_true]
  exact
    ⟨setPositive_of_ok hTrigger, setPositive_of_ok hWithin,
      hPositive, setNonNegative_of_ok hLinear,
      setNonNegative_of_ok hAngular,
      setBelow_of_ok hPositive hGap⟩

/-
  The numbers of an accepted assertion hold exactly if those
  that are compared without a look at finiteness are finite.
-/
theorem numbersHold_iff_of_ok
    (hOk :
      (validateAssertions scenario assertion).ok = true) :
    NumbersHold assertion ↔ ¬ UsesNonFinite assertion := by
  by_cases hEvent : assertion.type = "fault_event"
  · exact numbersHold_iff_of_faultEvent hOk hEvent
  by_cases hRate : assertion.type = "topic_hz"
  · exact numbersHold_iff_of_topicHz hOk hRate
  by_cases hStop : assertion.type = "twist_stopped"
  · exact numbersHold_of_twistStopped hOk hStop
  unfold validateAssertions at hOk
  simp only [hEvent, hRate, hStop, if_false,
    ValidationResult.ok_append] at hOk
  by_cases hEmpty : assertion.type = ""
  · rw [if_pos hEmpty, ok_errorIf] at hOk
    cases hOk.2
  · rw [if_neg hEmpty, ok_errorIf] at hOk
    cases hOk.2

end Accepted

/-
  Validation admits exactly the finite numbers within the
  bounds, except for the texts and the assertions that bring
  a number that is not finite past a comparison.
-/
theorem admitted_numbers_finite_iff
    {field : FaultConfigField}
    (hType : field.type = "int" ∨ field.type = "double")
    (text : String) :
    ((validateConfigValue field text = none ↔
        ReadsInBounds field text) ↔
      ¬ ReadsNonFinite field text) ∧
      ∀ scenario assertion,
        (validateAssertions scenario assertion).ok = true →
          (NumbersHold assertion ↔
            ¬ UsesNonFinite assertion) := by
  refine ⟨?_, fun _ _ hOk => numbersHold_iff_of_ok hOk⟩
  rcases hType with hInt | hDouble
  · refine iff_of_true
      (accepted_int_iff_readsInBounds hInt text) ?_
    rintro ⟨hDouble, _⟩
    rw [hInt] at hDouble
    exact absurd hDouble (by decide)
  · exact accepted_double_iff_readsInBounds_iff hDouble text

------------------------------------------------------------
-- A Probability That Is Not A Number
------------------------------------------------------------

namespace NotANumber

/- The chance that a message is dropped. -/
def field : FaultConfigField :=
  { key := "drop_probability"
    type := "double"
    minValue := some 0
    maxValue := some 1 }

/- A rate that no topic can fall below. -/
def assertion : AssertionConfig :=
  { id := "rate"
    type := "topic_hz"
    topic := "/odom"
    messageType := "nav_msgs/msg/Odometry"
    minHz := some .nan
    window := some .one }

/- The field is declared, and both checks let the value by. -/
theorem not_a_number_is_admitted :
    (∃ declared ∈ scanFaultInjector.staticConfigSchema,
      declared.key = field.key ∧
        declared.type = field.type ∧
          declared.minValue = field.minValue ∧
            declared.maxValue = field.maxValue) ∧
      validateConfigValue field "nan" = none ∧
        ¬ ReadsInBounds field "nan" ∧
          (validateAssertions {} assertion).ok = true ∧
            ¬ NumbersHold assertion := by
  refine ⟨?_, ?_, ?_, ?_, ?_⟩
  · decide +kernel
  · decide +kernel
  · rintro ⟨q, hRead, _⟩
    have hNan : parsedNumber field "nan" = some .nan := by
      decide +kernel
    rw [hNan] at hRead
    cases hRead
  · decide +kernel
  · rintro ⟨_, hRate, _⟩
    rcases (hRate rfl).1 with ⟨q, hSame, _⟩
    cases hSame

/- The exact conditions at the two values. -/
theorem admitted_numbers_finite_iff_of_not_a_number :
    ((validateConfigValue field "nan" = none ↔
        ReadsInBounds field "nan") ↔
      ¬ ReadsNonFinite field "nan") ∧
      (NumbersHold assertion ↔ ¬ UsesNonFinite assertion) := by
  have hAdmitted :=
    @admitted_numbers_finite_iff field (Or.inr rfl) "nan"
  have hOk : (validateAssertions {} assertion).ok = true := by
    decide +kernel
  exact ⟨hAdmitted.1, hAdmitted.2 {} assertion hOk⟩

end NotANumber
