import FaultInjection.Config.ScenarioConfig
import FaultInjection.Injectors.Schemas

/-
  Validation of a parsed scenario.

  A check yields the findings it appends to the result, in
  the order in which it appends them. The parameters of a
  fault are visited in the iteration order of its map.

  Key definitions include:
    * `ValidationResult`
    * `validateFault`
    * `validateAssertions`
    * `validateScenario`

  Key theorems include:
    * `ok_validateFaultConfigAgainstSchema_iff`
    * `ok_validateScenario_iff`
    * `findInjector_of_ok`
    * `schedule_nonneg_of_ok`
-/

------------------------------------------------------------
-- Findings
------------------------------------------------------------

/-
  Errors prevent startup and a reload. Warnings do not.
-/
structure ValidationResult where
  errors : List String := []
  warnings : List String := []
deriving DecidableEq

namespace ValidationResult

instance : Append ValidationResult where
  append a b :=
    { errors := a.errors ++ b.errors
      warnings := a.warnings ++ b.warnings }

/- No error was found. -/
def ok (result : ValidationResult) : Bool :=
  result.errors.isEmpty

/- The findings of a check made for each item in order. -/
def forEach
    {α : Type}
    (check : α → ValidationResult)
    (items : List α) : ValidationResult :=
  items.foldr (fun item rest => check item ++ rest) {}

@[simp] theorem ok_nil : ok {} = true := rfl

@[simp] theorem ok_append (a b : ValidationResult) :
    (a ++ b).ok = true ↔ a.ok = true ∧ b.ok = true := by
  have hErrors :
      (a ++ b).errors = a.errors ++ b.errors := rfl
  simp [ok, hErrors]

@[simp] theorem ok_forEach
    {α : Type}
    (check : α → ValidationResult)
    (items : List α) :
    (forEach check items).ok = true ↔
      ∀ item ∈ items, (check item).ok = true := by
  unfold forEach
  induction items with
  | nil => simp
  | cons item items ih => simp [ih]

end ValidationResult

open ValidationResult (forEach)

/- Report an error when the condition holds. -/
def errorIf
    (condition : Bool)
    (text : String) : ValidationResult :=
  if condition then { errors := [text] } else {}

/- Report a warning when the condition holds. -/
def warningIf
    (condition : Bool)
    (text : String) : ValidationResult :=
  if condition then { warnings := [text] } else {}

@[simp] theorem ok_errorIf
    (condition : Bool)
    (text : String) :
    (errorIf condition text).ok = true ↔
      condition = false := by
  cases condition <;> simp [errorIf, ValidationResult.ok]

@[simp] theorem ok_warningIf
    (condition : Bool)
    (text : String) :
    (warningIf condition text).ok = true := by
  cases condition <;> rfl

/-
  Check each item in order and report every repetition of a
  nonempty id.
-/
def checkDistinct
    {α : Type}
    (kind : String)
    (id : α → String)
    (check : α → ValidationResult) :
    List String → List α → ValidationResult
| _, [] => {}
| seen, item :: items =>
    errorIf (id item ≠ "" ∧ id item ∈ seen)
        ("duplicate " ++ kind ++ " id: '" ++ id item ++ "'") ++
      check item ++
        checkDistinct kind id check
          (if id item = "" then seen else id item :: seen)
          items

------------------------------------------------------------
-- Injectors
------------------------------------------------------------

def validateInjector
    (injector : InjectorConfig) : ValidationResult :=
  errorIf (injector.id = "")
      "injector.id must not be empty" ++
    warningIf (¬ isKnownInjectorType injector.type)
      ("injector.type '" ++ injector.type ++
        "' is not built in; assuming external plugin") ++
    match injector.topic, injector.triggerService with
    | none, none =>
        errorIf true
          ("injector must have either topic or " ++
            "trigger_service configuration")
    | some _, some _ =>
        errorIf true
          ("injector cannot have both topic and " ++
            "trigger_service configuration")
    | some topic, none =>
        errorIf (topic.inputTopic = "")
            "injector.topic.input_topic must not be empty" ++
          errorIf (topic.outputTopic = "")
            "injector.topic.output_topic must not be empty" ++
          errorIf (topic.qosDepth = 0)
            "injector.topic.qos_depth must be greater than 0"
    | none, some service =>
        errorIf (service.proxyService = "")
            ("injector.trigger_service.proxy_service must " ++
              "not be empty") ++
          errorIf (service.targetService = "")
            ("injector.trigger_service.target_service must " ++
              "not be empty")

------------------------------------------------------------
-- Faults
------------------------------------------------------------

/- A finding about a fault starts with the fault's id. -/
def aboutFault (fault : FaultConfig) (text : String) : String :=
  "fault '" ++ fault.id ++ "' " ++ text

def validateFaultConfigAgainstSchema
    (h : HashOrder String)
    (fault : FaultConfig)
    (schema : List FaultConfigField) : ValidationResult :=
  forEach
    (fun entry =>
      match findSchemaField schema entry.1 with
      | none =>
          warningIf true
            (aboutFault fault
              ("has unknown config key '" ++ entry.1 ++ "'"))
      | some field =>
          match validateConfigValue field entry.2 with
          | some error => errorIf true (aboutFault fault error)
          | none => {})
    (fault.config.enumerate h)

def validateRequiredSchemaFields
    (fault : FaultConfig)
    (schema : List FaultConfigField) : ValidationResult :=
  forEach
    (fun field =>
      errorIf
        (field.type = "non_empty_string" ∧
          ¬ fault.config.contains field.key)
        (aboutFault fault
          ("config '" ++ field.key ++ "' is required")))
    schema

def validateFault
    (h : HashOrder String)
    (scenario : ScenarioConfig)
    (fault : FaultConfig)
    (injector : InjectorConfig) : ValidationResult :=
  let activeOnStartup :=
    isInitiallyActive fault scenario.initiallyActiveFaults
  errorIf (fault.id = "") "fault.id must not be empty" ++
    errorIf (fault.injectorId = "")
      (aboutFault fault "injector_id must not be empty") ++
    errorIf (fault.injectorId ≠ injector.id)
      (aboutFault fault
        ("targets injector_id '" ++ fault.injectorId ++
          "' but scenario injector is '" ++ injector.id ++
            "'")) ++
    warningIf (activeOnStartup ∧ fault.start.isSome)
      (aboutFault fault
        ("has active_on_startup=true and start; " ++
          "start will be ignored")) ++
    warningIf
      (¬ activeOnStartup ∧ fault.duration.isSome ∧
        fault.start.isNone)
      (aboutFault fault
        ("has duration but no start; " ++
          "duration will be ignored")) ++
    errorIf (fault.start.any fun start => start < 0)
      (aboutFault fault "has negative start time") ++
    errorIf (fault.duration.any fun duration => duration < 0)
      (aboutFault fault "has negative duration") ++
    if isKnownInjectorType injector.type then
      let schema := schemaForBuiltinInjectorType injector.type
      validateFaultConfigAgainstSchema h fault schema ++
        validateRequiredSchemaFields fault schema
    else
      {}

------------------------------------------------------------
-- Assertions
------------------------------------------------------------

/- A finding about an assertion starts with its id. -/
def aboutAssertion
    (assertion : AssertionConfig)
    (text : String) : String :=
  "assertion '" ++ assertion.id ++ "' " ++ text

/- The fault that an assertion refers to must exist. -/
def validateFaultReference
    (scenario : ScenarioConfig)
    (assertion : AssertionConfig) : ValidationResult :=
  if assertion.faultId = "" then
    errorIf true
      (aboutAssertion assertion "fault_id must not be empty")
  else
    errorIf (¬ scenario.faultExists assertion.faultId)
      (aboutAssertion assertion
        ("references unknown fault_id '" ++
          assertion.faultId ++ "'"))

/- A value must be set and must not be at most zero. -/
def requireGreaterThanZero
    (assertion : AssertionConfig)
    (name : String)
    (value : Option Number) : ValidationResult :=
  match value with
  | none =>
      errorIf true
        (aboutAssertion assertion (name ++ " must be set"))
  | some x =>
      errorIf (x.le .zero)
        (aboutAssertion assertion
          (name ++ " must be greater than 0"))

/- A value must be set, finite and greater than zero. -/
def requireFinitePositive
    (assertion : AssertionConfig)
    (name : String)
    (value : Option Number) : ValidationResult :=
  match value with
  | none =>
      errorIf true
        (aboutAssertion assertion (name ++ " must be set"))
  | some x =>
      errorIf (¬ x.isFinite ∨ x.le .zero)
        (aboutAssertion assertion
          (name ++ " must be finite and greater than 0"))

/- A value must be set, finite and not negative. -/
def requireFiniteNonNegative
    (assertion : AssertionConfig)
    (name : String)
    (value : Option Number) : ValidationResult :=
  match value with
  | none =>
      errorIf true
        (aboutAssertion assertion (name ++ " must be set"))
  | some x =>
      errorIf (¬ x.isFinite ∨ x.lt .zero)
        (aboutAssertion assertion
          (name ++ " must be finite and non-negative"))

/- Two values are set and compare as given. -/
def bothSet
    (a b : Option Number)
    (compare : Number → Number → Bool) : Bool :=
  match a, b with
  | some x, some y => compare x y
  | _, _ => false

def validateFaultEvent
    (scenario : ScenarioConfig)
    (assertion : AssertionConfig) : ValidationResult :=
  validateFaultReference scenario assertion ++
    errorIf
      (assertion.state ≠ "active" ∧
        assertion.state ≠ "inactive")
      (aboutAssertion assertion
        ("has unsupported state '" ++ assertion.state ++ "'"))

def validateTopicHz
    (assertion : AssertionConfig) : ValidationResult :=
  errorIf (assertion.topic = "")
      (aboutAssertion assertion "topic must not be empty") ++
    requireGreaterThanZero assertion "min_hz"
      assertion.minHz ++
    requireGreaterThanZero assertion "window"
      assertion.window ++
    warningIf
      (bothSet assertion.within assertion.window Number.lt)
      (aboutAssertion assertion
        ("has within smaller than window; it may fail " ++
          "before a full measurement window is available")) ++
    errorIf (assertion.messageType = "")
      (aboutAssertion assertion
        "message_type must not be empty")

/- The largest gap must be shorter than the duration. -/
def validateMaxGap
    (assertion : AssertionConfig) : ValidationResult :=
  match assertion.maxGap with
  | none =>
      errorIf true
        (aboutAssertion assertion "max_gap must be set")
  | some gap =>
      if ¬ gap.isFinite ∨ gap.le .zero then
        errorIf true
          (aboutAssertion assertion
            "max_gap must be finite and greater than 0")
      else
        errorIf
          (assertion.duration.any fun duration =>
            Number.le duration gap)
          (aboutAssertion assertion
            "max_gap must be less than duration")

def validateTwistStopped
    (scenario : ScenarioConfig)
    (assertion : AssertionConfig) : ValidationResult :=
  errorIf (assertion.topic = "")
      (aboutAssertion assertion "topic must not be empty") ++
    validateFaultReference scenario assertion ++
    requireFinitePositive assertion "trigger_within"
      assertion.triggerWithin ++
    requireFinitePositive assertion "within"
      assertion.within ++
    errorIf
      (bothSet assertion.triggerWithin assertion.within
        fun x y =>
          x.isFinite ∧ y.isFinite ∧ ¬ (x.add y).isFinite)
      (aboutAssertion assertion
        "trigger_within + within must be finite") ++
    requireFinitePositive assertion "duration"
      assertion.duration ++
    requireFiniteNonNegative assertion "linear_tolerance"
      assertion.linearTolerance ++
    requireFiniteNonNegative assertion "angular_tolerance"
      assertion.angularTolerance ++
    validateMaxGap assertion

/- The checks made after those of a supported type. -/
def validateAssertionTimes
    (assertion : AssertionConfig) : ValidationResult :=
  errorIf (assertion.within.any fun x => x.lt .zero)
      (aboutAssertion assertion
        "must have non-negative within value") ++
    errorIf (assertion.duration.any fun x => x.lt .zero)
      (aboutAssertion assertion
        "must have non-negative duration value")

def validateAssertions
    (scenario : ScenarioConfig)
    (assertion : AssertionConfig) : ValidationResult :=
  errorIf (assertion.id = "")
      "assertion.id must not be empty" ++
    if assertion.type = "" then
      errorIf true
        (aboutAssertion assertion "type must not be empty")
    else if assertion.type = "fault_event" then
      validateFaultEvent scenario assertion ++
        validateAssertionTimes assertion
    else if assertion.type = "topic_hz" then
      validateTopicHz assertion ++
        validateAssertionTimes assertion
    else if assertion.type = "twist_stopped" then
      validateTwistStopped scenario assertion ++
        validateAssertionTimes assertion
    else
      errorIf true
        (aboutAssertion assertion
          ("has unsupported type '" ++ assertion.type ++ "'"))

------------------------------------------------------------
-- Scenarios
------------------------------------------------------------

/- The findings about one fault and the injector it names. -/
def validateFaultOfScenario
    (h : HashOrder String)
    (scenario : ScenarioConfig)
    (fault : FaultConfig) : ValidationResult :=
  match scenario.findInjector fault.injectorId with
  | none =>
      errorIf true
        (aboutFault fault
          ("references unknown injector_id '" ++
            fault.injectorId ++ "'"))
  | some injector => validateFault h scenario fault injector

/- Validate a parsed scenario before starting injectors. -/
def validateScenario
    (h : HashOrder String)
    (scenario : ScenarioConfig) : ValidationResult :=
  checkDistinct "injector" InjectorConfig.id
      validateInjector [] scenario.injectors ++
    forEach (validateFaultOfScenario h scenario)
      scenario.faults ++
    checkDistinct "assertion" AssertionConfig.id
      (validateAssertions scenario) [] scenario.assertions

------------------------------------------------------------
-- What Acceptance Says
------------------------------------------------------------

/-
  The check passes when every item does and no nonempty id
  is repeated or was seen before.
-/
theorem ok_checkDistinct_iff
    {α : Type}
    (kind : String)
    (id : α → String)
    (check : α → ValidationResult)
    (seen : List String)
    (items : List α) :
    (checkDistinct kind id check seen items).ok = true ↔
      (∀ item ∈ items, (check item).ok = true) ∧
        items.Pairwise
          (fun a b => id a ≠ "" → id b ≠ id a) ∧
          ∀ item ∈ items, id item ≠ "" → id item ∉ seen := by
  induction items generalizing seen with
  | nil => simp [checkDistinct]
  | cons item items ih =>
      simp only [checkDistinct, ValidationResult.ok_append,
        ok_errorIf, ih, List.mem_cons, List.pairwise_cons,
        forall_eq_or_imp, decide_eq_false_iff_not, not_and]
      by_cases hEmpty : id item = ""
      · simp only [hEmpty, if_true]
        tauto
      · simp only [hEmpty, if_false, List.mem_cons, not_or]
        constructor
        · rintro ⟨⟨hFresh, hItem⟩, hItems, hApart, hRest⟩
          refine ⟨⟨hItem, hItems⟩, ⟨?_, hApart⟩, hFresh, ?_⟩
          · intro other hOther _ hSame
            have hNonempty : id other ≠ "" := by
              rw [hSame]
              exact hEmpty
            exact (hRest other hOther hNonempty).1 hSame
          · intro other hOther hNonempty
            exact (hRest other hOther hNonempty).2
        · rintro ⟨⟨hItem, hItems⟩, ⟨hNew, hApart⟩,
            hFresh, hRest⟩
          refine ⟨⟨hFresh, hItem⟩, hItems, hApart, ?_⟩
          intro other hOther hNonempty
          exact ⟨hNew other hOther hEmpty,
            hRest other hOther hNonempty⟩

/- The values of declared keys pass; other keys only warn. -/
theorem ok_validateFaultConfigAgainstSchema_iff
    {h : HashOrder String}
    {fault : FaultConfig}
    {schema : List FaultConfigField} :
    (validateFaultConfigAgainstSchema h fault schema).ok =
        true ↔
      ∀ key value field,
        fault.config.find? key = some value →
          findSchemaField schema key = some field →
            validateConfigValue field value = none := by
  unfold validateFaultConfigAgainstSchema
  rw [ValidationResult.ok_forEach]
  constructor
  · intro hAll key value field hValue hField
    have hEntry :=
      hAll (key, value)
        ((UnorderedMap.mem_enumerate_iff _ _ _ _).mpr hValue)
    simp only [hField] at hEntry
    cases hCheck : validateConfigValue field value with
    | none => rfl
    | some error => simp [hCheck] at hEntry
  · rintro hAll ⟨key, value⟩ hEntry
    rw [UnorderedMap.mem_enumerate_iff] at hEntry
    cases hField : findSchemaField schema key with
    | none => simp
    | some field =>
        simp [hAll key value field hEntry hField]

/- Every required field has a value. -/
theorem ok_validateRequiredSchemaFields_iff
    {fault : FaultConfig}
    {schema : List FaultConfigField} :
    (validateRequiredSchemaFields fault schema).ok = true ↔
      ∀ field ∈ schema, field.type = "non_empty_string" →
        fault.config.contains field.key = true := by
  simp [validateRequiredSchemaFields]

section Accepted

variable {h : HashOrder String}
variable {scenario : ScenarioConfig}

theorem ok_validateScenario_iff :
    (validateScenario h scenario).ok = true ↔
      (checkDistinct "injector" InjectorConfig.id
          validateInjector [] scenario.injectors).ok = true ∧
        (∀ fault ∈ scenario.faults,
          (validateFaultOfScenario h scenario fault).ok =
            true) ∧
        (checkDistinct "assertion" AssertionConfig.id
          (validateAssertions scenario) []
            scenario.assertions).ok = true := by
  simp [validateScenario, and_assoc]

/- The injectors of an accepted scenario have ids. -/
theorem injector_id_ne_empty_of_ok
    (hOk : (validateScenario h scenario).ok = true)
    {injector : InjectorConfig}
    (hInjector : injector ∈ scenario.injectors) :
    injector.id ≠ "" := by
  have hChecks :=
    (ok_checkDistinct_iff _ _ _ _ _).mp
      (ok_validateScenario_iff.mp hOk).1
  have hValid := hChecks.1 injector hInjector
  unfold validateInjector at hValid
  simp only [ValidationResult.ok_append, ok_errorIf,
    decide_eq_false_iff_not] at hValid
  exact hValid.1.1

/- The injector ids of an accepted scenario are distinct. -/
theorem nodup_injector_ids_of_ok
    (hOk : (validateScenario h scenario).ok = true) :
    (scenario.injectors.map InjectorConfig.id).Nodup := by
  have hChecks :=
    (ok_checkDistinct_iff _ _ _ _ _).mp
      (ok_validateScenario_iff.mp hOk).1
  rw [List.Nodup, List.pairwise_map]
  refine hChecks.2.1.imp_of_mem ?_
  intro a b hA _ hApart hSame
  exact hApart (injector_id_ne_empty_of_ok hOk hA) hSame.symm

/- With distinct ids an injector is found by its own id. -/
theorem findInjector_of_mem
    (hOk : (validateScenario h scenario).ok = true)
    {injector : InjectorConfig}
    (hInjector : injector ∈ scenario.injectors) :
    scenario.findInjector injector.id = some injector :=
  (List.find?_eq_some_iff_of_nodup_map
    (nodup_injector_ids_of_ok hOk)).mpr ⟨hInjector, rfl⟩

/- Every fault of an accepted scenario names an injector. -/
theorem findInjector_of_ok
    (hOk : (validateScenario h scenario).ok = true)
    {fault : FaultConfig}
    (hFault : fault ∈ scenario.faults) :
    ∃ injector,
      scenario.findInjector fault.injectorId =
          some injector ∧
        (validateFault h scenario fault injector).ok =
          true := by
  have hValid :=
    (ok_validateScenario_iff.mp hOk).2.1 fault hFault
  unfold validateFaultOfScenario at hValid
  cases hFind : scenario.findInjector fault.injectorId with
  | none =>
      rw [hFind] at hValid
      cases hValid
  | some injector =>
      rw [hFind] at hValid
      exact ⟨injector, rfl, hValid⟩

/- A fault of an accepted scenario has an id. -/
theorem fault_id_ne_empty_of_ok
    (hOk : (validateScenario h scenario).ok = true)
    {fault : FaultConfig}
    (hFault : fault ∈ scenario.faults) :
    fault.id ≠ "" := by
  rcases findInjector_of_ok hOk hFault with ⟨_, _, hValid⟩
  unfold validateFault at hValid
  simp only [ValidationResult.ok_append, ok_errorIf,
    decide_eq_false_iff_not] at hValid
  tauto

/-
  A fault of an accepted scenario has neither a negative
  start nor a negative duration.
-/
theorem schedule_nonneg_of_ok
    (hOk : (validateScenario h scenario).ok = true)
    {fault : FaultConfig}
    (hFault : fault ∈ scenario.faults) :
    (∀ start, fault.start = some start → 0 ≤ start) ∧
      ∀ duration,
        fault.duration = some duration → 0 ≤ duration := by
  rcases findInjector_of_ok hOk hFault with ⟨_, _, hValid⟩
  unfold validateFault at hValid
  simp only [ValidationResult.ok_append, ok_errorIf] at hValid
  have hStart := hValid.1.1.2
  have hDuration := hValid.1.2
  constructor
  · intro start hSome
    simpa [hSome] using hStart
  · intro duration hSome
    simpa [hSome] using hDuration

/- The fault that an accepted assertion refers to exists. -/
theorem ok_validateFaultReference
    {assertion : AssertionConfig}
    (hOk :
      (validateFaultReference scenario assertion).ok = true) :
    scenario.faultExists assertion.faultId = true := by
  unfold validateFaultReference at hOk
  split at hOk
  · cases hOk
  · simpa using hOk

/- Assertions about a fault refer to an existing one. -/
theorem faultExists_of_ok
    (hOk : (validateScenario h scenario).ok = true)
    {assertion : AssertionConfig}
    (hAssertion : assertion ∈ scenario.assertions)
    (hType :
      assertion.type = "fault_event" ∨
        assertion.type = "twist_stopped") :
    scenario.faultExists assertion.faultId = true := by
  have hChecks :=
    (ok_checkDistinct_iff _ _ _ _ _).mp
      (ok_validateScenario_iff.mp hOk).2.2
  have hValid := hChecks.1 assertion hAssertion
  unfold validateAssertions at hValid
  rcases hType with hType | hType
  · simp only [hType, String.reduceEq, if_false, if_true,
      ValidationResult.ok_append, validateFaultEvent]
      at hValid
    exact ok_validateFaultReference hValid.2.1.1
  · simp only [hType, String.reduceEq, if_false, if_true,
      ValidationResult.ok_append, validateTwistStopped]
      at hValid
    apply ok_validateFaultReference
    tauto

end Accepted
