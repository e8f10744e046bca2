import FaultInjection.Assertions.TwistStoppedAssertion
import FaultInjection.Config.ScenarioValidator

/-
  The limits of the assertion that a fault stops commands.

  Key definitions include:
    * `StopLimits`
    * `StopLimits.Set`

  Key theorems include:
    * `StopLimits.set_of_ok`
-/

------------------------------------------------------------
-- Limits
------------------------------------------------------------

/- The limits of the assertion as exact numbers of seconds. -/
structure StopLimits where
  triggerWithin : ℚ
  within : ℚ
  duration : ℚ
  linearTolerance : ℚ
  angularTolerance : ℚ
  maxGap : ℚ

namespace StopLimits

/- A limit that is set and finite, else zero. -/
def value : Option Number → ℚ
| some (.finite q) => q
| _ => 0

def ofConfig (config : AssertionConfig) : StopLimits where
  triggerWithin := value config.triggerWithin
  within := value config.within
  duration := value config.duration
  linearTolerance := value config.linearTolerance
  angularTolerance := value config.angularTolerance
  maxGap := value config.maxGap

def isZero
    (limits : StopLimits)
    (message : Twist) : Bool :=
  TwistStoppedAssertion.withinTolerance
      (.finite limits.linearTolerance) message.linear &&
    TwistStoppedAssertion.withinTolerance
      (.finite limits.angularTolerance) message.angular

/- Every limit is set and finite, and windows are positive. -/
structure Set (config : AssertionConfig) : Prop where
  triggerWithin :
    config.triggerWithin =
      some (.finite (ofConfig config).triggerWithin)
  within :
    config.within = some (.finite (ofConfig config).within)
  duration :
    config.duration =
      some (.finite (ofConfig config).duration)
  linearTolerance :
    config.linearTolerance =
      some (.finite (ofConfig config).linearTolerance)
  angularTolerance :
    config.angularTolerance =
      some (.finite (ofConfig config).angularTolerance)
  maxGap :
    config.maxGap = some (.finite (ofConfig config).maxGap)
  triggerWithin_pos : 0 < (ofConfig config).triggerWithin
  within_pos : 0 < (ofConfig config).within
  duration_pos : 0 < (ofConfig config).duration

theorem value_of_finite
    {limit : Option Number}
    (hFinite : ∃ x, limit = some x ∧ x.isFinite = true) :
    limit = some (.finite (value limit)) := by
  rcases hFinite with ⟨x, hLimit, hX⟩
  rcases (Number.isFinite_iff x).mp hX with ⟨q, hQ⟩
  rw [hLimit, hQ]
  rfl

theorem pos_of_requireFinitePositive
    {assertion : AssertionConfig}
    {name : String}
    {limit : Option Number}
    (hOk :
      (requireFinitePositive assertion name limit).ok =
        true) :
    limit = some (.finite (value limit)) ∧
      0 < value limit := by
  unfold requireFinitePositive at hOk
  cases limit with
  | none => simp at hOk
  | some x =>
      simp only [ok_errorIf, decide_eq_false_iff_not, not_or,
        Bool.not_eq_true, Bool.not_eq_false] at hOk
      have hValue := value_of_finite ⟨x, rfl, hOk.1⟩
      refine ⟨hValue, ?_⟩
      rw [Option.some.injEq] at hValue
      have hLe := hOk.2
      rw [hValue] at hLe
      simpa [Number.le, Number.zero] using hLe

theorem value_of_requireFiniteNonNegative
    {assertion : AssertionConfig}
    {name : String}
    {limit : Option Number}
    (hOk :
      (requireFiniteNonNegative assertion name limit).ok =
        true) :
    limit = some (.finite (value limit)) := by
  unfold requireFiniteNonNegative at hOk
  cases limit with
  | none => simp at hOk
  | some x =>
      simp only [ok_errorIf, decide_eq_false_iff_not, not_or,
        Bool.not_eq_true, Bool.not_eq_false] at hOk
      exact value_of_finite ⟨x, rfl, hOk.1⟩

theorem value_of_validateMaxGap
    {assertion : AssertionConfig}
    (hOk : (validateMaxGap assertion).ok = true) :
    assertion.maxGap =
      some (.finite (value assertion.maxGap)) := by
  unfold validateMaxGap at hOk
  cases hGap : assertion.maxGap with
  | none => simp [hGap] at hOk
  | some gap =>
      simp only [hGap] at hOk
      split at hOk
      · simp at hOk
      · rename_i hGood
        apply value_of_finite
        refine ⟨gap, rfl, ?_⟩
        by_contra hInfinite
        exact hGood (.inl hInfinite)

/- The limits of an accepted assertion are set. -/
theorem set_of_ok
    {h : HashOrder String}
    {scenario : ScenarioConfig}
    {config : AssertionConfig}
    (hOk : (validateScenario h scenario).ok = true)
    (hMember : config ∈ scenario.assertions)
    (hType : config.type = "twist_stopped") :
    Set config := by
  have hChecks :=
    (ok_checkDistinct_iff _ _ _ _ _).mp
      (ok_validateScenario_iff.mp hOk).2.2
  have hValid := hChecks.1 config hMember
  unfold validateAssertions at hValid
  have hOther :
      ("twist_stopped" : String) ≠ "" ∧
        ("twist_stopped" : String) ≠ "fault_event" ∧
          ("twist_stopped" : String) ≠ "topic_hz" := by
    decide
  rw [hType, if_neg hOther.1, if_neg hOther.2.1,
    if_neg hOther.2.2, if_pos rfl] at hValid
  unfold validateTwistStopped at hValid
  simp only [ValidationResult.ok_append] at hValid
  rcases hValid with
    ⟨_, ⟨⟨⟨⟨⟨⟨⟨_, hTrigger⟩, hWithin⟩, _⟩, hDuration⟩,
      hLinear⟩, hAngular⟩, hGap⟩, _⟩
  have hTrigger := pos_of_requireFinitePositive hTrigger
  have hWithin := pos_of_requireFinitePositive hWithin
  have hDuration := pos_of_requireFinitePositive hDuration
  exact
    { triggerWithin := hTrigger.1
      within := hWithin.1
      duration := hDuration.1
      linearTolerance :=
        value_of_requireFiniteNonNegative hLinear
      angularTolerance :=
        value_of_requireFiniteNonNegative hAngular
      maxGap := value_of_validateMaxGap hGap
      triggerWithin_pos := hTrigger.2
      within_pos := hWithin.2
      duration_pos := hDuration.2 }

end StopLimits
