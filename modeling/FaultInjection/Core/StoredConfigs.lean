import FaultInjection.Core.EventLog
import FaultInjection.Core.ReloadAtomicity
import FaultInjection.Core.ReloadCompatibility

/-
  What an injector stores for a fault satisfies the schema of
  the injector, at startup and after every change.

  Configurations enter from a validated file at startup and
  at a reload, and value by value from a request. A reload
  keeps the types of the injectors, so the schemas under
  which both were checked are the same.

  Key definitions include:
    * `SatisfiesSchema`
    * `FaultController.ConfigsValid`

  Key theorems include:
    * `SatisfiesSchema.insert`
    * `FaultController.ConfigsValid.step`
    * `FaultController.stored_configs_stay_valid`
-/

------------------------------------------------------------
-- Schemas
------------------------------------------------------------

/-
  Each value stored under a declared key passes the check of
  its field, and every required field has a value.
-/
structure SatisfiesSchema
    (schema : List FaultConfigField)
    (config : UnorderedMap String String) : Prop where
  values :
    ∀ field ∈ schema, ∀ value,
      config.find? field.key = some value →
        validateConfigValue field value = none
  required :
    ∀ field ∈ schema, field.type = "non_empty_string" →
      config.contains field.key = true

section Schemas

variable {type : String}
variable {config : UnorderedMap String String}

/- Storing a checked value keeps a configuration valid. -/
theorem SatisfiesSchema.insert
    (hValid :
      SatisfiesSchema (schemaForBuiltinInjectorType type)
        config)
    {key value : String}
    {field : FaultConfigField}
    (hField :
      findSchemaField (schemaForBuiltinInjectorType type)
        key = some field)
    (hValue : validateConfigValue field value = none) :
    SatisfiesSchema (schemaForBuiltinInjectorType type)
      (config.insert key value) := by
  refine ⟨?_, ?_⟩
  · intro other hOther stored hStored
    rw [UnorderedMap.find?_insert] at hStored
    split at hStored
    · rename_i hKey
      have hFound :=
        findSchemaField_eq_some_iff.mpr ⟨hOther, hKey.symm⟩
      rw [hField, Option.some.injEq] at hFound
      rw [Option.some.injEq] at hStored
      rw [← hFound, ← hStored]
      exact hValue
    · exact hValid.values other hOther stored hStored
  · intro other hOther hType
    have hOld := hValid.required other hOther hType
    unfold UnorderedMap.contains at hOld ⊢
    rw [UnorderedMap.find?_insert]
    split
    · rfl
    · exact hOld

/- A fault that passes validation satisfies the schema. -/
theorem satisfiesSchema_of_ok
    {h : HashOrder String}
    {scenario : ScenarioConfig}
    {fault : FaultConfig}
    {injector : InjectorConfig}
    (hKnown : isKnownInjectorType injector.type = true)
    (hOk :
      (validateFault h scenario fault injector).ok = true) :
    SatisfiesSchema
      (schemaForBuiltinInjectorType injector.type)
      fault.config := by
  unfold validateFault at hOk
  simp only [ValidationResult.ok_append, hKnown, if_true,
    ok_validateFaultConfigAgainstSchema_iff,
    ok_validateRequiredSchemaFields_iff] at hOk
  rcases hOk with ⟨_, hValues, hRequired⟩
  refine ⟨?_, hRequired⟩
  intro field hField value hValue
  exact hValues field.key value field hValue
    (findSchemaField_eq_some_iff.mpr ⟨hField, rfl⟩)

end Schemas

------------------------------------------------------------
-- Valid Injectors
------------------------------------------------------------

namespace FaultController

open FaultScheduler FaultServiceManager Transition

/-
  A running injector has the built-in type that the scenario
  declares for it, and stores valid configurations only.
-/
structure InjectorValid
    (scenario : ScenarioConfig)
    (key : String)
    (injector : FaultInjectorBase) : Prop where
  declared :
    ∃ config,
      scenario.findInjector key = some config ∧
        config.type = injector.type
  builtin : isKnownInjectorType injector.type = true
  stored :
    ∀ faultId fault,
      injector.getFaultConfig faultId = some fault →
        SatisfiesSchema injector.configSchema fault.config

/- All running injectors are valid for the scenario. -/
def ConfigsValid
    (scenario : ScenarioConfig)
    (c : FaultController) : Prop :=
  ∀ key injector, c.injector? key = some injector →
    InjectorValid scenario key injector

variable {h : HashOrder String}
variable {scenario : ScenarioConfig}

/- The schema of a built-in type is the type's own. -/
theorem configSchema_of_builtin
    {injector : FaultInjectorBase}
    (hKnown : isKnownInjectorType injector.type = true) :
    injector.configSchema =
      schemaForBuiltinInjectorType injector.type := by
  unfold FaultInjectorBase.configSchema
  rw [if_pos hKnown]

/- Validity does not depend on which faults are active. -/
theorem InjectorValid.of_eq
    {key : String}
    {injector other : FaultInjectorBase}
    (hValid : InjectorValid scenario key injector)
    (hConfig : other.config = injector.config)
    (hFaults : other.faults = injector.faults) :
    InjectorValid scenario key other := by
  have hType : other.type = injector.type :=
    congrArg InjectorConfig.type hConfig
  have hSchema :
      other.configSchema = injector.configSchema := by
    unfold FaultInjectorBase.configSchema
    rw [hType]
  refine ⟨?_, ?_, ?_⟩
  · rw [hType]
    exact hValid.declared
  · rw [hType]
    exact hValid.builtin
  · intro faultId fault hFault
    rw [hSchema]
    apply hValid.stored faultId fault
    unfold FaultInjectorBase.getFaultConfig at hFault ⊢
    rw [← hFaults]
    exact hFault

theorem ConfigsValid.of_sameFaults
    {a b : FaultController}
    (hValid : ConfigsValid scenario b)
    (hSame : SameFaults a b) :
    ConfigsValid scenario a := by
  intro key injector hInjector
  have hKey := hSame.2 key
  rw [hInjector] at hKey
  cases hOther : b.injector? key with
  | none => simp [hOther] at hKey
  | some other =>
      simp only [hOther, Option.map_some,
        Option.some.injEq, Prod.mk.injEq] at hKey
      exact (hValid key other hOther).of_eq hKey.1 hKey.2

/- A change of one injector needs to keep that one valid. -/
theorem ConfigsValid.modifyInjector
    {c : FaultController}
    (hValid : ConfigsValid scenario c)
    {key : String}
    {f : FaultInjectorBase → FaultInjectorBase}
    (hKeep :
      ∀ injector, c.injector? key = some injector →
        InjectorValid scenario key (f injector)) :
    ConfigsValid scenario (c.modifyInjector key f) := by
  intro other injector hInjector
  rw [injector?_modifyInjector] at hInjector
  split at hInjector
  · rename_i hSame
    subst hSame
    rw [Option.map_eq_some_iff] at hInjector
    rcases hInjector with ⟨old, hOld, rfl⟩
    exact hKeep old hOld
  · exact hValid other injector hInjector

------------------------------------------------------------
-- Registration And Requests
------------------------------------------------------------

/- Registering a fault of an accepted scenario. -/
theorem ConfigsValid.registerFault
    (hOk : (validateScenario h scenario).ok = true)
    {fault : FaultConfig}
    (hFault : fault ∈ scenario.faults)
    {c : FaultController}
    (hValid : ConfigsValid scenario c) :
    ConfigsValid scenario (registerFault c fault) := by
  apply hValid.modifyInjector
  intro injector hInjector
  have hOld := hValid fault.injectorId injector hInjector
  refine ⟨hOld.declared, hOld.builtin, ?_⟩
  intro faultId stored hStored
  rw [FaultInjectorBase.getFaultConfig_addFault] at hStored
  split at hStored
  · rw [Option.some.injEq] at hStored
    subst hStored
    rcases findInjector_of_ok hOk hFault with
      ⟨config, hFind, hChecked⟩
    rcases hOld.declared with ⟨declared, hDeclared, hType⟩
    rw [hFind, Option.some.injEq] at hDeclared
    subst hDeclared
    have hKnown : isKnownInjectorType config.type = true := by
      rw [hType]
      exact hOld.builtin
    change SatisfiesSchema injector.configSchema _
    rw [configSchema_of_builtin hOld.builtin, ← hType]
    exact satisfiesSchema_of_ok hKnown hChecked
  · exact hOld.stored faultId stored hStored

/- Storing a value that a request's checks let through. -/
theorem ConfigsValid.storeValue
    {c : FaultController}
    (hValid : ConfigsValid scenario c)
    {request : SetFaultConfigRequest}
    {target : Target}
    {field : FaultConfigField}
    {updated : FaultInjectorBase}
    (hResolve :
      resolveFault h c request.faultId = .ok target)
    (hField :
      findSchemaField target.injector.configSchema
        request.key = some field)
    (hValue :
      validateConfigValue field request.value = none)
    (hUpdate :
      target.injector.setFaultConfigValue request.faultId
        request.key request.value = some updated) :
    ConfigsValid scenario
      (storeValue target request updated c) := by
  have hInjector := (resolveFault_eq_ok hResolve).2.1
  have hOld := hValid target.key target.injector hInjector
  rcases FaultInjectorBase.setFaultConfigValue_eq_some
      hUpdate with
    ⟨hConfig, _, fault, hFind, hFaults⟩
  have hType : updated.type = target.injector.type :=
    congrArg InjectorConfig.type hConfig
  have hBuiltin :
      isKnownInjectorType updated.type = true := by
    rw [hType]
    exact hOld.builtin
  have hSchema := configSchema_of_builtin hOld.builtin
  have hUpdated :
      InjectorValid scenario target.key updated := by
    refine ⟨?_, hBuiltin, ?_⟩
    · rw [hType]
      exact hOld.declared
    · intro faultId stored hStored
      rw [configSchema_of_builtin hBuiltin, hType]
      unfold FaultInjectorBase.getFaultConfig at hStored
      rw [hFaults, UnorderedMap.find?_insert] at hStored
      split at hStored
      · rw [Option.some.injEq] at hStored
        subst hStored
        have hBefore := hOld.stored request.faultId fault hFind
        rw [hSchema] at hBefore hField
        exact hBefore.insert hField hValue
      · have hBefore := hOld.stored faultId stored hStored
        rw [hSchema] at hBefore
        exact hBefore
  have hStored :
      ConfigsValid scenario
        (c.modifyInjector target.key fun _ => updated) :=
    hValid.modifyInjector fun _ _ => hUpdated
  exact hStored

------------------------------------------------------------
-- Startup And Reload
------------------------------------------------------------

/- A compatible scenario declares the running types. -/
theorem declared_of_compatible
    {c : FaultController}
    {newScenario : ScenarioConfig}
    (hCompatible :
      (c.validateReloadCompatible newScenario).success =
        true)
    {key type : String}
    (hDeclared :
      ∃ config,
        c.scenario.findInjector key = some config ∧
          config.type = type) :
    ∃ config,
      newScenario.findInjector key = some config ∧
        config.type = type := by
  rcases hDeclared with ⟨current, hFind, hType⟩
  rcases ScenarioConfig.mem_of_findInjector hFind with
    ⟨hCurrent, hId⟩
  have hUnaltered :=
    (compatible_iff_unaltered c newScenario).mp hCompatible
  refine ⟨current, ?_, hType⟩
  rw [← hId]
  exact hUnaltered.2 current hCurrent

/- What a reload clears is valid for the new scenario. -/
theorem ConfigsValid.clearScenario
    {c : FaultController}
    (hValid : ConfigsValid c.scenario c)
    {newScenario : ScenarioConfig}
    (hCompatible :
      (c.validateReloadCompatible newScenario).success =
        true) :
    ConfigsValid newScenario
      (clearScenario newScenario c) := by
  intro key injector hInjector
  rw [injector?_clearScenario,
    Option.map_eq_some_iff] at hInjector
  rcases hInjector with ⟨old, hOld, rfl⟩
  have hBefore := hValid key old hOld
  refine ⟨?_, hBefore.builtin, ?_⟩
  · exact declared_of_compatible hCompatible hBefore.declared
  · intro faultId fault hFault
    cases hFault

/- An accepted reload leaves valid configurations. -/
theorem ConfigsValid.applyReload
    {c : FaultController}
    (hValid : ConfigsValid c.scenario c)
    {content : Except String ScenarioConfig}
    {newScenario : ScenarioConfig}
    (hCheck : c.checkReload h content = .ok newScenario) :
    ConfigsValid newScenario
      (applyReload h newScenario c).state := by
  rcases checkReload_eq_ok_iff.mp hCheck with
    ⟨_, hOk, hCompatible⟩
  apply applyReload_state
  · intro fault hFault s hState
    exact hState.registerFault hOk hFault
  · intro fault _ _ s hState
    exact hState.of_sameFaults
      (sameFaults_setActive s fault.injectorId fault.id true)
  · intro fault _ callback delay _ _ s hState
    exact hState
  · exact hValid.clearScenario hCompatible

theorem configsValid_of_started
    {factory : InjectorConfig → Bool}
    {c : FaultController}
    (hOk : (validateScenario h scenario).ok = true)
    (hBuiltin :
      ∀ config ∈ scenario.injectors,
        isKnownInjectorType config.type = true)
    (hStarted : Started h factory scenario c) :
    ConfigsValid scenario c ∧ c.scenario = scenario := by
  refine started_state
    (P := fun s =>
      ConfigsValid scenario s ∧ s.scenario = scenario)
    ?_ ?_ ?_ ?_ ?_ ?_ hStarted
  · exact fun m s hState => hState
  · intro config hConfig s hState
    refine ⟨?_, hState.2⟩
    intro key injector hInjector
    rw [injector?_addInjector] at hInjector
    split at hInjector
    · rename_i hKey
      rw [Option.some.injEq] at hInjector
      subst hKey hInjector
      refine ⟨⟨config, findInjector_of_mem hOk hConfig, rfl⟩,
        hBuiltin config hConfig, ?_⟩
      intro faultId fault hFault
      cases hFault
    · exact hState.1 key injector hInjector
  · intro fault hFault s hState
    exact ⟨hState.1.registerFault hOk hFault, hState.2⟩
  · intro fault _ _ s hState
    exact
      ⟨hState.1.of_sameFaults
          (sameFaults_setActive s fault.injectorId fault.id
            true),
        hState.2⟩
  · exact fun fault _ callback delay _ _ s hState => hState
  · intro steadyNow rosNow
    refine ⟨?_, rfl⟩
    intro key injector hInjector
    cases hInjector

------------------------------------------------------------
-- Runs
------------------------------------------------------------

/- Every step keeps the stored configurations valid. -/
theorem ConfigsValid.step
    {c after : FaultController}
    {a : Action}
    (hValid : ConfigsValid c.scenario c)
    (hStep : c.step h a = some after) :
    ConfigsValid after.scenario after := by
  refine step_keeps
    (P := fun s => ConfigsValid s.scenario s)
    ?_ ?_ ?_ ?_ ?_ ?_ ?_ hValid hStep
  · intro elapsed rosNow _
    exact hValid
  · intro n e key fault _ _ _
    exact hValid.of_sameFaults
      (sameFaults_setActive c key fault.id true)
  · intro n e key fault _ _ _
    exact hValid.of_sameFaults
      (sameFaults_setActive c key fault.id false)
  · intro request target _ _
    exact hValid.of_sameFaults
      (switchFault_switches c target request).sameFaults
  · intro request target field updated _ hResolve hField
      hValue hUpdate
    exact hValid.storeValue hResolve hField hValue hUpdate
  · intro content newScenario _ hCheck
    rw [applyReload_scenario]
    exact hValid.applyReload hCheck
  · intro subscription _ _
    exact hValid

/-
  In every reachable state of an accepted scenario over
  built-in types, every registered fault's configuration
  satisfies its injector's schema. The run also covers
  callers that go on after a reload threw.
-/
theorem stored_configs_stay_valid
    {factory : InjectorConfig → Bool}
    {start c : FaultController}
    {actions : List Action}
    (hOk : (validateScenario h scenario).ok = true)
    (hBuiltin :
      ∀ config ∈ scenario.injectors,
        isKnownInjectorType config.type = true)
    (hStarted : Started h factory scenario start)
    (hRun : run (step h) start actions = some c)
    {key faultId : String}
    {injector : FaultInjectorBase}
    {fault : FaultConfig}
    (hInjector : c.injector? key = some injector)
    (hFault :
      injector.getFaultConfig faultId = some fault) :
    SatisfiesSchema injector.configSchema fault.config := by
  rcases configsValid_of_started hOk hBuiltin hStarted with
    ⟨hInit, hScenario⟩
  have hInvariant : ConfigsValid c.scenario c := by
    apply run_invariant
      (I := fun s => ConfigsValid s.scenario s)
      (P := fun _ _ => True) ?_ ?_
      (along_of_forall (fun _ _ => True.intro) start actions)
      hRun
    · exact fun s a t hValid _ hStep => hValid.step hStep
    · rw [hScenario]
      exact hInit
  exact (hInvariant key injector hInjector).stored faultId
    fault hFault

end FaultController

------------------------------------------------------------
-- A Value Stored Between Two Reloads
------------------------------------------------------------

namespace FaultController.FrameShift

open Transition

/- One fault with the frames that its schema requires. -/
def scenario : ScenarioConfig where
  injectors :=
    [{ id := "frames", type := "tf",
       topic := some
        { inputTopic := "tf_raw"
          outputTopic := "tf" } }]
  faults :=
    [{ id := "shift", injectorId := "frames",
       config :=
        .ofList
          [ ("parent_frame", "odom"),
            ("child_frame", "base_link") ] }]

def started : FaultController :=
  (construct .insertion (fun _ => true) {} 0 scenario).state

/- An empty frame is refused, a delay is stored. -/
def actions : List Action :=
  [ .reloadScenario (.ok scenario),
    .setFaultConfig ⟨"shift", "child_frame", ""⟩,
    .setFaultConfig ⟨"shift", "delay_ms", "20"⟩ ]

theorem stored_configs_stay_valid_after_update :
    ∃ c injector fault,
      run (step .insertion) started actions = some c ∧
        c.injector? "frames" = some injector ∧
          injector.getFaultConfig "shift" = some fault ∧
            fault.config.find? "delay_ms" = some "20" ∧
              SatisfiesSchema injector.configSchema
                fault.config := by
  have hEnd :
      ((run (step .insertion) started actions).bind fun c =>
        (c.injector? "frames").bind fun injector =>
          (injector.getFaultConfig "shift").map fun fault =>
            fault.config.find? "delay_ms") =
        some (some "20") := by
    decide
  simp only [Option.bind_eq_some_iff,
    Option.map_eq_some_iff] at hEnd
  rcases hEnd with
    ⟨c, hRun, injector, hInjector, fault, hFault, hDelay⟩
  refine ⟨c, injector, fault, hRun, hInjector, hFault,
    hDelay, ?_⟩
  have hStarted :
      Started .insertion (fun _ => true) scenario started :=
    ⟨0, 0, by rfl⟩
  exact stored_configs_stay_valid (by decide) (by decide)
    hStarted hRun hInjector hFault

end FaultController.FrameShift
