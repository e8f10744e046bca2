import FaultInjection.Core.StoredConfigs

/-
  What is registered while a controller runs.

  The injectors that run never change. Each of them has the
  faults that the loaded scenario lists for it and the type
  that the scenario declares, in every reachable state.

  Key definitions include:
    * `FaultController.SameInjectors`
    * `FaultController.Faithful`

  Key theorems include:
    * `FaultController.sameInjectors_step`
    * `FaultController.hasFault_step`
    * `FaultController.faithful_of_run`
-/

------------------------------------------------------------
-- Injectors That Run
------------------------------------------------------------

namespace FaultController

open FaultScheduler FaultServiceManager Transition

/- The same injectors run, with the same configurations. -/
def SameInjectors (a b : FaultController) : Prop :=
  ∀ key,
    (a.injector? key).map FaultInjectorBase.config =
      (b.injector? key).map FaultInjectorBase.config

section SameInjectors

variable {a b c : FaultController}

theorem SameInjectors.trans
    (hFirst : SameInjectors a b)
    (hSecond : SameInjectors b c) :
    SameInjectors a c :=
  fun key => (hFirst key).trans (hSecond key)

theorem SameInjectors.symm
    (hSame : SameInjectors a b) :
    SameInjectors b a :=
  fun key => (hSame key).symm

theorem SameInjectors.isSome
    (hSame : SameInjectors a b)
    (key : String) :
    (a.injector? key).isSome = (b.injector? key).isSome := by
  have hKey := congrArg Option.isSome (hSame key)
  simpa using hKey

/- They report the same ids. -/
theorem SameInjectors.injectorId
    (hSame : SameInjectors a b)
    (key : String) :
    a.injectorId key = b.injectorId key := by
  have hKey := hSame key
  unfold FaultController.injectorId
  cases hA : a.injector? key with
  | none =>
      cases hB : b.injector? key with
      | none => rfl
      | some injector => simp [hA, hB] at hKey
  | some injector =>
      cases hB : b.injector? key with
      | none => simp [hA, hB] at hKey
      | some other =>
          rw [hA, hB, Option.map_some, Option.map_some,
            Option.some.injEq] at hKey
          exact congrArg InjectorConfig.id hKey

/- A method that keeps the configuration keeps it here. -/
theorem sameInjectors_modifyInjector
    {key : String}
    {f : FaultInjectorBase → FaultInjectorBase}
    (hKeep :
      ∀ injector, c.injector? key = some injector →
        (f injector).config = injector.config) :
    SameInjectors (c.modifyInjector key f) c := by
  intro other
  rw [injector?_modifyInjector]
  split
  · rename_i hKey
    subst hKey
    cases hInjector : c.injector? key with
    | none => exact rfl
    | some injector =>
        simp only [Option.map_some, hKeep injector hInjector]
  · exact rfl

theorem sameInjectors_setActive
    (c : FaultController)
    (key faultId : String)
    (value : Bool) :
    SameInjectors
      (c.modifyInjector key fun injector =>
        injector.setActive faultId value)
      c :=
  sameInjectors_modifyInjector fun injector _ =>
    FaultInjectorBase.setActive_config injector faultId value

/- The configuration of each injector that runs. -/
def Configured
    (P : String → InjectorConfig → Prop)
    (c : FaultController) : Prop :=
  ∀ key injector, c.injector? key = some injector →
    P key injector.config

theorem SameInjectors.configured
    {P : String → InjectorConfig → Prop}
    (hSame : SameInjectors a b)
    (hAll : Configured P b) :
    Configured P a := by
  intro key injector hInjector
  have hKey := hSame key
  rw [hInjector, Option.map_some, eq_comm,
    Option.map_eq_some_iff] at hKey
  rcases hKey with ⟨old, hOld, hConfig⟩
  rw [← hConfig]
  exact hAll key old hOld

variable {h : HashOrder String}

/- The same faults are registered with the same injectors. -/
theorem SameFaults.sameInjectors
    (hSame : SameFaults a b) :
    SameInjectors a b := by
  intro key
  have hKey := congrArg (Option.map Prod.fst) (hSame.2 key)
  rw [Option.map_map, Option.map_map] at hKey
  exact hKey

/- A reload keeps the injectors. -/
theorem sameInjectors_applyReload
    {newScenario : ScenarioConfig} :
    SameInjectors (applyReload h newScenario c).state c := by
  apply applyReload_state (P := fun s => SameInjectors s c)
  · intro fault _ s hState
    have hRegister :
        SameInjectors (registerFault s fault) s :=
      sameInjectors_modifyInjector fun _ _ => rfl
    exact hRegister.trans hState
  · intro fault _ _ s hState
    exact
      (sameInjectors_setActive s fault.injectorId fault.id
        true).trans hState
  · exact fun _ _ _ _ _ _ _ hState => hState
  · intro key
    rw [injector?_clearScenario, Option.map_map]
    exact rfl

/- No step changes which injectors run. -/
theorem sameInjectors_step
    {a : Action}
    {after : FaultController}
    (hStep : c.step h a = some after) :
    SameInjectors after c := by
  refine step_keeps (P := fun s => SameInjectors s c)
    ?_ ?_ ?_ ?_ ?_ ?_ ?_ (fun _ => rfl) hStep
  · exact fun _ _ _ _ => rfl
  · intro n e key fault _ _ _
    exact sameInjectors_setActive c key fault.id true
  · intro n e key fault _ _ _
    exact sameInjectors_setActive c key fault.id false
  · intro request target _ _
    exact sameInjectors_modifyInjector fun injector _ => by
      split <;> exact FaultInjectorBase.setActive_config _ _ _
  · intro request target field updated _ hResolve _ _ hSet
    apply sameInjectors_modifyInjector
    intro injector hInjector
    have hTarget := (resolveFault_eq_ok hResolve).2.1
    rw [hTarget, Option.some.injEq] at hInjector
    rw [← hInjector]
    exact (FaultInjectorBase.setFaultConfigValue_eq_some
      hSet).1
  · intro content newScenario _ _
    exact sameInjectors_applyReload
  · exact fun _ _ _ _ => rfl

/- The constructor creates the injectors that are listed. -/
theorem configured_of_started
    {factory : InjectorConfig → Bool}
    {scenario : ScenarioConfig}
    {P : String → InjectorConfig → Prop}
    (hListed :
      ∀ config ∈ scenario.injectors, P config.id config)
    (hStarted : Started h factory scenario c) :
    Configured P c := by
  refine started_state (P := Configured P)
    ?_ ?_ ?_ ?_ ?_ ?_ hStarted
  · exact fun _ _ hState => hState
  · intro config hConfig s hState key injector hInjector
    rw [injector?_addInjector] at hInjector
    split at hInjector
    · rename_i hKey
      rw [Option.some.injEq] at hInjector
      subst hKey hInjector
      exact hListed config hConfig
    · exact hState key injector hInjector
  · intro fault _ s hState
    have hSame : SameInjectors (registerFault s fault) s :=
      sameInjectors_modifyInjector fun _ _ => rfl
    exact hSame.configured hState
  · intro fault _ _ s hState
    exact
      (sameInjectors_setActive s fault.injectorId fault.id
        true).configured hState
  · exact fun _ _ _ _ _ _ _ hState => hState
  · intro _ _ key injector hInjector
    cases hInjector

end SameInjectors

------------------------------------------------------------
-- Registered Faults
------------------------------------------------------------

/- The scenario declares the type for the injector. -/
def DeclaresType
    (scenario : ScenarioConfig)
    (key : String)
    (config : InjectorConfig) : Prop :=
  ∃ declared,
    scenario.findInjector key = some declared ∧
      declared.type = config.type

/-
  The controller runs what its scenario says: its injectors
  have the declared types, and each has the faults that the
  scenario lists for it.
-/
structure Faithful (c : FaultController) : Prop where
  types : c.Configured (DeclaresType c.scenario)
  faults :
    ∀ key faultId,
      c.hasFault key faultId = true ↔
        (c.injector? key).isSome = true ∧
          ∃ fault ∈ c.scenario.faults,
            fault.injectorId = key ∧ fault.id = faultId

section Faithful

variable {h : HashOrder String}
variable {scenario : ScenarioConfig}

/- Only a reload changes which faults are registered. -/
theorem hasFault_step
    {c after : FaultController}
    {a : Action}
    (hNoReload : ∀ content, a ≠ .reloadScenario content)
    (hStep : c.step h a = some after)
    (key faultId : String) :
    after.hasFault key faultId = c.hasFault key faultId := by
  refine step_keeps
    (P := fun s =>
      s.hasFault key faultId = c.hasFault key faultId)
    ?_ ?_ ?_ ?_ ?_ ?_ ?_ rfl hStep
  · intro elapsed rosNow _
    exact rfl
  · intro n e k fault _ _ _
    exact (runStart_switches c k fault n).hasFault key faultId
  · intro n e k fault _ _ _
    exact (runStop_switches c k fault n).hasFault key faultId
  · intro request target _ _
    exact (switchFault_switches c target request).hasFault
      key faultId
  · intro request target field updated _ hResolve _ _ hSet
    exact (sameLog_storeValue hResolve hSet).faults key
      faultId
  · intro content newScenario hReload _
    exact absurd hReload (hNoReload content)
  · intro subscription _ _
    exact rfl

/- Only a reload changes the scenario. -/
theorem scenario_step
    {c after : FaultController}
    {a : Action}
    (hNoReload : ∀ content, a ≠ .reloadScenario content)
    (hStep : c.step h a = some after) :
    after.scenario = c.scenario := by
  refine step_keeps (P := fun s => s.scenario = c.scenario)
    ?_ ?_ ?_ ?_ ?_ ?_ ?_ rfl hStep
  · exact fun _ _ _ => rfl
  · exact fun _ _ _ _ _ _ _ => rfl
  · exact fun _ _ _ _ _ _ _ => rfl
  · exact fun _ _ _ _ => rfl
  · exact fun _ _ _ _ _ _ _ _ _ => rfl
  · intro content newScenario hReload _
    exact absurd hReload (hNoReload content)
  · exact fun _ _ _ => rfl

/- Each injector stores what its scenario lists for it. -/
theorem faults_of_faultConfig
    {c : FaultController}
    (hStored :
      ∀ key faultId,
        c.faultConfig key faultId =
          if (c.injector? key).isSome = true then
            lastFault key faultId c.scenario.faults
          else
            none)
    (key faultId : String) :
    c.hasFault key faultId = true ↔
      (c.injector? key).isSome = true ∧
        ∃ fault ∈ c.scenario.faults,
          fault.injectorId = key ∧ fault.id = faultId := by
  rw [hasFault_iff_faultConfig, hStored,
    ← exists_lastFault_iff]
  split
  · rename_i hRuns
    simp [hRuns]
  · rename_i hRuns
    simp [hRuns]

/- The constructor loads its scenario. -/
theorem scenario_of_started
    {factory : InjectorConfig → Bool}
    {c : FaultController}
    (hStarted : Started h factory scenario c) :
    c.scenario = scenario := by
  refine started_state (P := fun s => s.scenario = scenario)
    ?_ ?_ ?_ ?_ ?_ ?_ hStarted
  · exact fun _ _ hState => hState
  · exact fun _ _ _ hState => hState
  · exact fun _ _ _ hState => hState
  · exact fun _ _ _ _ hState => hState
  · exact fun _ _ _ _ _ _ _ hState => hState
  · exact fun _ _ => rfl

theorem faithful_of_started
    {factory : InjectorConfig → Bool}
    {c : FaultController}
    (hOk : (validateScenario h scenario).ok = true)
    (hStarted : Started h factory scenario c) :
    c.Faithful := by
  have hScenario := scenario_of_started hStarted
  constructor
  · rw [hScenario]
    have hListed :
        ∀ config ∈ scenario.injectors,
          DeclaresType scenario config.id config := by
      intro config hConfig
      exact ⟨config, findInjector_of_mem hOk hConfig, rfl⟩
    exact configured_of_started hListed hStarted
  · apply faults_of_faultConfig
    intro key faultId
    rcases hStarted with ⟨steadyNow, rosNow, hConstruct⟩
    have hStored := faultConfig_of_construct hConstruct key
    rw [hStored.2 faultId, hScenario]
    simp only [hStored.1]

/- An accepted reload installs its scenario. -/
theorem Faithful.applyReload
    {c : FaultController}
    (hFaithful : c.Faithful)
    {content : Except String ScenarioConfig}
    {newScenario : ScenarioConfig}
    (hCheck : c.checkReload h content = .ok newScenario) :
    (applyReload h newScenario c).state.Faithful := by
  rcases checkReload_eq_ok_iff.mp hCheck with
    ⟨_, _, hCompatible⟩
  constructor
  · rw [applyReload_scenario]
    refine sameInjectors_applyReload.configured ?_
    intro key injector hInjector
    exact declared_of_compatible hCompatible
      (hFaithful.types key injector hInjector)
  · apply faults_of_faultConfig
    intro key faultId
    rw [faultConfig_applyReload, applyReload_scenario,
      injector?_applyReload_isSome]

theorem Faithful.step
    {c after : FaultController}
    {a : Action}
    (hFaithful : c.Faithful)
    (hStep : c.step h a = some after) :
    after.Faithful := by
  by_cases hReload : ∃ content, a = .reloadScenario content
  · rcases hReload with ⟨content, hContent⟩
    subst hContent
    rw [FaultController.step, Option.some.injEq] at hStep
    rcases reloadScenario_cases
        (h := h) (c := c) content with
      ⟨result, _, hDone⟩ | ⟨newScenario, hCheck, hApply⟩
    · rw [hDone, Outcome.state_done] at hStep
      rw [← hStep]
      exact hFaithful
    · rw [hApply] at hStep
      rw [← hStep]
      exact hFaithful.applyReload hCheck
  · have hNoReload :
        ∀ content, a ≠ .reloadScenario content :=
      fun content hSame => hReload ⟨content, hSame⟩
    have hScenario := scenario_step hNoReload hStep
    have hSame := sameInjectors_step hStep
    constructor
    · rw [hScenario]
      exact hSame.configured hFaithful.types
    · intro key faultId
      rw [hasFault_step hNoReload hStep, hSame.isSome,
        hScenario]
      exact hFaithful.faults key faultId

/-
  Every reachable state of an accepted scenario runs what the
  scenario loaded then says.
-/
theorem faithful_of_run
    {factory : InjectorConfig → Bool}
    {start c : FaultController}
    {actions : List Action}
    (hOk : (validateScenario h scenario).ok = true)
    (hStarted : Started h factory scenario start)
    (hRun : run (step h) start actions = some c) :
    c.Faithful := by
  apply run_invariant (I := Faithful) (P := fun _ _ => True)
    ?_ (faithful_of_started hOk hStarted)
    (along_of_forall (fun _ _ => True.intro) start actions)
    hRun
  exact fun s a t hFaithful _ hStep => hFaithful.step hStep

end Faithful

end FaultController
