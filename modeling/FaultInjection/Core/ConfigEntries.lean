import FaultInjection.Core.CampaignRunner
import FaultInjection.Core.RegisteredFaults

/-
  The two ways in which an entry of a fault's configuration
  is checked: with its scenario and by a request.

  Both check the value of a declared key alike. An entry with
  another key only warns in a scenario; a request with it is
  refused.

  Key definitions include:
    * `SetsEntry`
    * `EntryValid`
    * `declaresKey`
    * `startNode`

  Key theorems include:
    * `ok_validateScenario_entry_iff`
    * `FaultServiceManager.setFaultConfig_success_iff`
    * `FaultController.config_entry_consistent`
-/

------------------------------------------------------------
-- Entries
------------------------------------------------------------

/- The schema of the type has the key. -/
def declaresKey (type key : String) : Bool :=
  (findSchemaField (schemaForBuiltinInjectorType type)
    key).isSome

/- A declared key has a value that its field allows. -/
def EntryValid (type key value : String) : Prop :=
  ∀ field,
    findSchemaField (schemaForBuiltinInjectorType type) key =
        some field →
      validateConfigValue field value = none

/-
  The scenario has the entry in the configuration of one
  fault and is the base scenario in everything else.
-/
def SetsEntry
    (base scenario : ScenarioConfig)
    (fault : FaultConfig)
    (key value : String) : Prop :=
  ∃ before after config,
    base.faults = before ++ fault :: after ∧
      scenario =
        { base with
          faults :=
            before ++
              { fault with config := config } :: after } ∧
        config.find? key = some value ∧
          ∀ other, other ≠ key →
            config.find? other = fault.config.find? other

section Entries

variable {h : HashOrder String}
variable {base scenario : ScenarioConfig}
variable {fault : FaultConfig}
variable {injector : InjectorConfig}
variable {key value : String}

/- A fault with another entry passes if the entry does. -/
theorem ok_validateFault_entry_iff
    {config : UnorderedMap String String}
    (hBuiltin : isKnownInjectorType injector.type = true)
    (hOk :
      (validateFault h base fault injector).ok = true)
    (hEntry : config.find? key = some value)
    (hOther :
      ∀ other, other ≠ key →
        config.find? other = fault.config.find? other) :
    (validateFault h base { fault with config := config }
        injector).ok =
        true ↔
      EntryValid injector.type key value := by
  unfold validateFault at *
  simp only [ValidationResult.ok_append, hBuiltin, if_true,
    ok_validateFaultConfigAgainstSchema_iff,
    ok_validateRequiredSchemaFields_iff] at hOk ⊢
  rcases hOk with ⟨hSchedule, hValues, hRequired⟩
  constructor
  · intro hAll field hField
    exact hAll.2.1 key value field hEntry hField
  · intro hValid
    refine ⟨hSchedule, ?_, ?_⟩
    · intro otherKey otherValue field hStored hField
      by_cases hKey : otherKey = key
      · subst hKey
        rw [hEntry, Option.some.injEq] at hStored
        rw [← hStored]
        exact hValid field hField
      · rw [hOther otherKey hKey] at hStored
        exact hValues otherKey otherValue field hStored hField
    · intro field hField hType
      unfold UnorderedMap.contains
      by_cases hKey : field.key = key
      · rw [hKey, hEntry]
        exact rfl
      · rw [hOther field.key hKey]
        exact hRequired field hField hType

/- Assertions refer to faults by their ids only. -/
theorem validateAssertions_of_faultExists
    (hExists : scenario.faultExists = base.faultExists) :
    validateAssertions scenario = validateAssertions base := by
  funext assertion
  unfold validateAssertions validateFaultEvent
    validateTwistStopped validateFaultReference
  rw [hExists]

/-
  A scenario that is otherwise accepted passes if the value
  of the entry is allowed or its key is not declared.
-/
theorem ok_validateScenario_entry_iff
    (hBase : (validateScenario h base).ok = true)
    (hFind :
      base.findInjector fault.injectorId = some injector)
    (hBuiltin : isKnownInjectorType injector.type = true)
    (hEntry : SetsEntry base scenario fault key value) :
    (validateScenario h scenario).ok = true ↔
      EntryValid injector.type key value := by
  rcases hEntry with
    ⟨before, after, config, hFaults, hScenario, hValue,
      hOther⟩
  subst hScenario
  have hExists :
      ScenarioConfig.faultExists
          { base with
            faults :=
              before ++
                { fault with config := config } :: after } =
        base.faultExists := by
    funext faultId
    unfold ScenarioConfig.faultExists
    rw [hFaults]
    simp
  have hAssertions :=
    validateAssertions_of_faultExists hExists
  rw [ok_validateScenario_iff] at hBase ⊢
  rw [hAssertions]
  rcases hBase with ⟨hInjectors, hChecked, hAsserted⟩
  rw [hFaults] at hChecked
  have hFault :
      (validateFaultOfScenario h base fault).ok = true :=
    hChecked fault (by simp)
  have hSame :
      (validateFaultOfScenario h base
          { fault with config := config }).ok =
          true ↔
        EntryValid injector.type key value := by
    unfold validateFaultOfScenario at hFault ⊢
    rw [hFind] at hFault
    simp only [hFind]
    exact ok_validateFault_entry_iff hBuiltin hFault hValue
      hOther
  rw [← hSame]
  constructor
  · intro hAll
    exact hAll.2.1 _ (by simp)
  · intro hChanged
    refine ⟨hInjectors, ?_, hAsserted⟩
    intro other hMember
    rcases List.mem_append.mp hMember with hBefore | hRest
    · exact hChecked other (List.mem_append_left _ hBefore)
    · rcases List.mem_cons.mp hRest with hHere | hAfter
      · rw [hHere]
        exact hChanged
      · exact hChecked other (by simp [hAfter])

end Entries

------------------------------------------------------------
-- Warnings
------------------------------------------------------------

namespace ValidationResult

theorem mem_warnings_append_iff
    {a b : ValidationResult}
    {text : String} :
    text ∈ (a ++ b).warnings ↔
      text ∈ a.warnings ∨ text ∈ b.warnings :=
  List.mem_append

theorem mem_warnings_forEach
    {α : Type}
    {check : α → ValidationResult}
    {items : List α}
    {text : String}
    (item : α)
    (hItem : item ∈ items)
    (hText : text ∈ (check item).warnings) :
    text ∈ (forEach check items).warnings := by
  induction items with
  | nil => cases hItem
  | cons first items ih =>
      unfold forEach
      rw [List.foldr_cons, mem_warnings_append_iff]
      rcases List.mem_cons.mp hItem with hFirst | hRest
      · rw [hFirst] at hText
        exact Or.inl hText
      · exact Or.inr (ih hRest)

end ValidationResult

section Warnings

variable {h : HashOrder String}
variable {base scenario : ScenarioConfig}
variable {fault : FaultConfig}
variable {injector : InjectorConfig}
variable {key value : String}

/- What is said about a key that the schema does not have. -/
def unknownKeyWarning
    (fault : FaultConfig)
    (key : String) : String :=
  aboutFault fault ("has unknown config key '" ++ key ++ "'")

/- An entry with an undeclared key is warned about. -/
theorem warns_of_undeclared
    (hFind :
      base.findInjector fault.injectorId = some injector)
    (hBuiltin : isKnownInjectorType injector.type = true)
    (hEntry : SetsEntry base scenario fault key value)
    (hUndeclared : declaresKey injector.type key = false) :
    unknownKeyWarning fault key ∈
      (validateScenario h scenario).warnings := by
  rcases hEntry with
    ⟨before, after, config, _, hScenario, hValue, _⟩
  subst hScenario
  have hField :
      findSchemaField
          (schemaForBuiltinInjectorType injector.type) key =
        none := by
    unfold declaresKey at hUndeclared
    simpa using hUndeclared
  unfold validateScenario
  rw [ValidationResult.mem_warnings_append_iff,
    ValidationResult.mem_warnings_append_iff]
  refine Or.inl (Or.inr ?_)
  refine ValidationResult.mem_warnings_forEach
    { fault with config := config } (by simp) ?_
  unfold validateFaultOfScenario ScenarioConfig.findInjector
  unfold ScenarioConfig.findInjector at hFind
  simp only [hFind]
  unfold validateFault
  simp only [hBuiltin, if_true]
  rw [ValidationResult.mem_warnings_append_iff]
  right
  rw [ValidationResult.mem_warnings_append_iff]
  left
  unfold validateFaultConfigAgainstSchema
  refine ValidationResult.mem_warnings_forEach
    (key, value) ?_ ?_
  · exact (UnorderedMap.mem_enumerate_iff _ _ _ _).mpr hValue
  · simp only [hField]
    exact List.mem_singleton_self _

end Warnings

------------------------------------------------------------
-- Requests
------------------------------------------------------------

namespace FaultController

open FaultServiceManager

/-
  With distinct ids a request for a fault finds the injector
  that the fault names, if it runs.
-/
theorem findInjectorForFault_of_nodup
    {h : HashOrder String}
    {c : FaultController}
    {fault : FaultConfig}
    (hFaithful : c.Faithful)
    (hIds : (c.scenario.faults.map FaultConfig.id).Nodup)
    (hFault : fault ∈ c.scenario.faults)
    (hRuns : (c.injector? fault.injectorId).isSome = true) :
    findInjectorForFault h c fault.id =
      some fault.injectorId := by
  have hHas :
      c.hasFault fault.injectorId fault.id = true :=
    (hFaithful.faults _ _).mpr
      ⟨hRuns, fault, hFault, rfl, rfl⟩
  cases hFind : findInjectorForFault h c fault.id with
  | none =>
      rw [findInjectorForFault_eq_none_iff] at hFind
      rw [hFind fault.injectorId] at hHas
      cases hHas
  | some key =>
      have hFound := findInjectorForFault_eq_some hFind
      rcases ((hFaithful.faults _ _).mp hFound).2 with
        ⟨other, hOther, hKey, hSame⟩
      have hEqual : other = fault :=
        List.inj_on_of_nodup_map hIds hOther hFault hSame
      rw [← hKey, hEqual]

end FaultController

------------------------------------------------------------
-- Starting A Scenario
------------------------------------------------------------

/-
  What the injector node does with what loading its scenario
  file yields: construct a controller if it passes validation.
-/
def startNode
    (h : HashOrder String)
    (factory : InjectorConfig → Bool)
    (node : CallbackNode Owner Callback)
    (content : Except String ScenarioConfig) :
    Option (Outcome FaultController) :=
  match content with
  | .error _ => none
  | .ok scenario =>
      if (validateScenario h scenario).ok then
        some
          (FaultController.construct h factory node 0 scenario)
      else
        none

theorem startNode_isSome_iff
    {h : HashOrder String}
    {factory : InjectorConfig → Bool}
    {node : CallbackNode Owner Callback}
    {scenario : ScenarioConfig} :
    (startNode h factory node (.ok scenario)).isSome = true ↔
      (validateScenario h scenario).ok = true := by
  unfold startNode
  by_cases hOk : (validateScenario h scenario).ok = true
  · simp [hOk]
  · simp [hOk]

/- Where in the list a campaign value was stored. -/
theorem split_of_setCampaignValue
    {variant : CampaignVariant}
    {value : String}
    {faults changed : List FaultConfig}
    (hSet :
      setCampaignValue variant value faults = some changed) :
    ∃ before fault after,
      faults = before ++ fault :: after ∧
        fault.id = variant.faultId ∧
          changed =
            before ++
              { fault with
                config :=
                  fault.config.insert variant.key value } ::
                after := by
  induction faults generalizing changed with
  | nil => cases hSet
  | cons first faults ih =>
      unfold setCampaignValue at hSet
      split at hSet
      · rename_i hId
        rw [Option.some.injEq] at hSet
        exact ⟨[], first, faults, rfl, hId, hSet.symm⟩
      · rcases Option.map_eq_some_iff.mp hSet with
          ⟨rest, hRest, hChanged⟩
        rcases ih hRest with
          ⟨before, fault, after, hFaults, hId, hEnd⟩
        refine ⟨first :: before, fault, after, ?_, hId, ?_⟩
        · rw [hFaults, List.cons_append]
        · rw [← hChanged, hEnd, List.cons_append]

/- A campaign value is an entry of the first such fault. -/
theorem setsEntry_of_applyCampaignValue
    {base scenario : ScenarioConfig}
    {variant : CampaignVariant}
    {value : String}
    (hApply :
      applyCampaignValue base variant value = .ok scenario) :
    ∃ fault,
      fault.id = variant.faultId ∧
        SetsEntry base scenario fault variant.key value := by
  unfold applyCampaignValue at hApply
  cases hSet :
      setCampaignValue variant value base.faults with
  | none => simp [hSet] at hApply
  | some changed =>
      simp only [hSet, Except.ok.injEq] at hApply
      rcases split_of_setCampaignValue hSet with
        ⟨before, fault, after, hFaults, hId, hChanged⟩
      refine ⟨fault, hId, before, after,
        fault.config.insert variant.key value, hFaults, ?_,
        ?_, ?_⟩
      · rw [← hApply, hChanged]
      · rw [UnorderedMap.find?_insert, if_pos rfl]
      · intro other hOther
        rw [UnorderedMap.find?_insert, if_neg hOther.symm]

/- A campaign constructs for what passes validation. -/
theorem beginRun_begun_iff
    {h : HashOrder String}
    {factory : InjectorConfig → Bool}
    {node : CallbackNode Owner Callback}
    {base scenario : ScenarioConfig}
    {planned : PlannedRun}
    {rest : List PlannedRun}
    {value : String}
    {runner : CampaignRunner}
    (hValue : planned.value = some value)
    (hApply :
      applyCampaignValue base planned.variant value =
        .ok scenario) :
    (runner.beginRun h factory node planned rest
        (.ok base)).begun = runner.begun + 1 ↔
      (validateScenario h scenario).ok = true := by
  unfold CampaignRunner.beginRun
    CampaignRunner.generateScenario
  simp only [hValue, hApply]
  by_cases hOk : (validateScenario h scenario).ok = true
  · simp [hOk]
  · simp [hOk, CampaignRunner.skipRun]

------------------------------------------------------------
-- Both Checks
------------------------------------------------------------

namespace FaultController

open FaultServiceManager Transition

/- The type that a request for a fault is checked with. -/
theorem type_of_found
    {h : HashOrder String}
    {c : FaultController}
    {fault : FaultConfig}
    {injector : InjectorConfig}
    {target : Target}
    (hFaithful : c.Faithful)
    (hFind :
      c.scenario.findInjector fault.injectorId =
        some injector)
    (hTarget :
      findInjectorForFault h c fault.id =
        some fault.injectorId)
    (hResolve : resolveFault h c fault.id = .ok target) :
    target.injector.type = injector.type := by
  rcases resolveFault_eq_ok hResolve with
    ⟨hFound, hInjector, _⟩
  rw [hTarget, Option.some.injEq] at hFound
  rw [← hFound] at hInjector
  rcases hFaithful.types _ _ hInjector with
    ⟨declared, hDeclared, hType⟩
  rw [hFind, Option.some.injEq] at hDeclared
  rw [hDeclared]
  exact hType.symm

section Consistency

variable {h : HashOrder String}
variable {factory : InjectorConfig → Bool}
variable {first base scenario : ScenarioConfig}
variable {start c : FaultController}
variable {actions : List Action}
variable {fault : FaultConfig}
variable {injector : InjectorConfig}
variable {key value : String}

/- A request is accepted if the key and the value are. -/
theorem request_success_iff
    (hFaithful : c.Faithful)
    (hId : fault.id ≠ "")
    (hFind :
      c.scenario.findInjector fault.injectorId =
        some injector)
    (hBuiltin : isKnownInjectorType injector.type = true)
    (hTarget :
      findInjectorForFault h c fault.id =
        some fault.injectorId) :
    (handleSetFaultConfig h ⟨fault.id, key, value⟩
        c).2.success = true ↔
      EntryValid injector.type key value ∧
        declaresKey injector.type key = true := by
  rw [setFaultConfig_success_iff]
  rcases resolveFault_of_found hId hTarget with
    ⟨target, hResolve, _⟩
  have hType :=
    type_of_found hFaithful hFind hTarget hResolve
  have hSchema :
      target.injector.configSchema =
        schemaForBuiltinInjectorType injector.type := by
    rw [← hType] at hBuiltin ⊢
    exact configSchema_of_builtin hBuiltin
  constructor
  · intro hAccepted
    rcases hAccepted with
      ⟨other, field, hOther, hField, hValue⟩
    rw [hResolve, Except.ok.injEq] at hOther
    rw [← hOther, hSchema] at hField
    refine ⟨?_, ?_⟩
    · intro otherField hOtherField
      rw [hField, Option.some.injEq] at hOtherField
      rw [← hOtherField]
      exact hValue
    · unfold declaresKey
      rw [hField]
      exact rfl
  · intro hBoth
    rcases hBoth with ⟨hValid, hDeclared⟩
    rcases Option.isSome_iff_exists.mp hDeclared with
      ⟨field, hField⟩
    refine ⟨target, field, hResolve, ?_, hValid field hField⟩
    rw [hSchema]
    exact hField

/-
  Consider a scenario that is accepted but for one entry of a
  fault, and a running system with that fault. A request with
  the entry is accepted exactly if the scenario is and the
  schema declares the key. With an undeclared key the scenario
  is accepted with a warning. A campaign runs what it
  generates exactly if a node would run it.
-/
theorem config_entry_consistent
    (node : CallbackNode Owner Callback)
    (hBase : (validateScenario h base).ok = true)
    (hFind :
      base.findInjector fault.injectorId = some injector)
    (hBuiltin : isKnownInjectorType injector.type = true)
    (hEntry : SetsEntry base scenario fault key value)
    (hFirst : (validateScenario h first).ok = true)
    (hStarted : Started h factory first start)
    (hRun : run (step h) start actions = some c)
    (hLoaded : c.scenario = base)
    (hTarget :
      findInjectorForFault h c fault.id =
        some fault.injectorId) :
    ((handleSetFaultConfig h ⟨fault.id, key, value⟩
          c).2.success = true ↔
        (startNode h factory node (.ok scenario)).isSome =
            true ∧
          declaresKey injector.type key = true) ∧
      (declaresKey injector.type key = false →
        (startNode h factory node (.ok scenario)).isSome =
            true ∧
          unknownKeyWarning fault key ∈
            (validateScenario h scenario).warnings) ∧
        ∀ (runner : CampaignRunner) planned rest,
          planned.value = some value →
            applyCampaignValue base planned.variant value =
                .ok scenario →
              ((runner.beginRun h factory node planned rest
                    (.ok base)).begun =
                  runner.begun + 1 ↔
                (startNode h factory node
                    (.ok scenario)).isSome =
                  true) := by
  have hFaithful := faithful_of_run hFirst hStarted hRun
  have hFault : fault ∈ base.faults := by
    rcases hEntry with ⟨before, after, config, hFaults, _⟩
    rw [hFaults]
    simp
  have hId := fault_id_ne_empty_of_ok hBase hFault
  have hFindLoaded :
      c.scenario.findInjector fault.injectorId =
        some injector := by
    rw [hLoaded]
    exact hFind
  have hPasses :=
    ok_validateScenario_entry_iff hBase hFind hBuiltin hEntry
  rw [startNode_isSome_iff]
  refine ⟨?_, ?_, ?_⟩
  · rw [hPasses]
    exact request_success_iff hFaithful hId hFindLoaded
      hBuiltin hTarget
  · intro hUndeclared
    refine ⟨hPasses.mpr ?_, ?_⟩
    · intro field hField
      unfold declaresKey at hUndeclared
      rw [hField] at hUndeclared
      cases hUndeclared
    · exact warns_of_undeclared hFind hBuiltin hEntry
        hUndeclared
  · intro runner planned rest hValue hApply
    exact beginRun_begun_iff hValue hApply

end Consistency

end FaultController

------------------------------------------------------------
-- A Key That Nothing Reads
------------------------------------------------------------

namespace FaultController.UnknownKey

open FaultServiceManager Transition

def fault : FaultConfig where
  id := "bias"
  injectorId := "base"
  config := .ofList [("x_bias", "1.0")]

def base : ScenarioConfig where
  injectors :=
    [{ id := "base", type := "odom",
       topic := some
        { inputTopic := "odom"
          outputTopic := "odom_faulty" } }]
  faults := [fault]

/- The base scenario with one entry more. -/
def scenario (key value : String) : ScenarioConfig :=
  { base with
    faults :=
      [{ fault with
         config := fault.config.insert key value }] }

def started : FaultController :=
  (construct .insertion (fun _ => true) {} 0 base).state

theorem setsEntry (key value : String) :
    SetsEntry base (scenario key value) fault key value := by
  refine ⟨[], [], fault.config.insert key value, rfl, rfl,
    ?_, ?_⟩
  · rw [UnorderedMap.find?_insert, if_pos rfl]
  · intro other hOther
    rw [UnorderedMap.find?_insert, if_neg hOther.symm]

/- The scenario passes and is run; the request is refused. -/
theorem entry_not_consistent :
    ¬ ∀ (base scenario : ScenarioConfig)
        (fault : FaultConfig)
        (injector : InjectorConfig)
        (key value : String)
        (start c : FaultController)
        (actions : List Action),
      (validateScenario .insertion base).ok = true →
        base.findInjector fault.injectorId = some injector →
          isKnownInjectorType injector.type = true →
            SetsEntry base scenario fault key value →
              Started .insertion (fun _ => true) base start →
                run (step .insertion) start actions =
                    some c →
                  ((startNode .insertion (fun _ => true) {}
                        (.ok scenario)).isSome = true ↔
                    (handleSetFaultConfig .insertion
                      ⟨fault.id, key, value⟩
                        c).2.success = true) := by
  intro hAll
  have hBoth :=
    hAll base (scenario "unexpected_key" "some_value") fault
      base.injectors[0] "unexpected_key" "some_value" started
      started [] (by decide +kernel) (by rfl) (by decide)
      (setsEntry _ _) ⟨0, 0, by rfl⟩ (by rfl)
  have hAccepted :=
    hBoth.mp (by decide +kernel)
  revert hAccepted
  decide

/- An entry with a declared key is accepted by both. -/
theorem entry_consistent_for_bias :
    (handleSetFaultConfig .insertion ⟨"bias", "y_bias", "0.5"⟩
        started).2.success =
      true := by
  have hFirst : (validateScenario .insertion base).ok = true :=
    by decide +kernel
  have hRun :
      run (step .insertion) started [] = some started := rfl
  have hFind :
      base.findInjector fault.injectorId =
        some base.injectors[0] := by
    rfl
  have hStarted :
      Started .insertion (fun _ => true) base started :=
    ⟨0, 0, by rfl⟩
  have hConsistent :=
    config_entry_consistent {} hFirst hFind (by decide)
      (setsEntry "y_bias" "0.5") hFirst hStarted hRun rfl
      (by decide)
  exact hConsistent.1.mpr (by decide +kernel)

end FaultController.UnknownKey
