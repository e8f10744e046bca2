import FaultInjection.Config.FaultConfig
import FaultInjection.Foundations.Number

/-
  A parsed scenario: injectors, faults, the faults requested
  active at startup, and assertions.

  Key definitions include:
    * `AssertionConfig`
    * `ScenarioConfig`
    * `ScenarioConfig.findInjector`
    * `isInitiallyActive`
-/

------------------------------------------------------------
-- Scenarios
------------------------------------------------------------

structure AssertionConfig where
  id : String := ""
  type : String := ""
  topic : String := ""
  messageType : String := ""
  faultId : String := ""
  state : String := ""
  minHz : Option Number := none
  window : Option Number := none
  triggerWithin : Option Number := none
  linearTolerance : Option Number := none
  angularTolerance : Option Number := none
  maxGap : Option Number := none
  within : Option Number := none
  duration : Option Number := none
deriving DecidableEq

structure ScenarioConfig where
  injectors : List InjectorConfig := []
  faults : List FaultConfig := []
  initiallyActiveFaults : List String := []
  assertions : List AssertionConfig := []
deriving DecidableEq

namespace ScenarioConfig

/- The first injector with the id. -/
def findInjector
    (scenario : ScenarioConfig)
    (injectorId : String) : Option InjectorConfig :=
  scenario.injectors.find? fun injector =>
    injector.id = injectorId

/- Some fault of the scenario has the id. -/
def faultExists
    (scenario : ScenarioConfig)
    (faultId : String) : Bool :=
  scenario.faults.any fun fault => fault.id = faultId

/- The faults of the scenario that target an injector. -/
def targetedFaults
    (scenario : ScenarioConfig)
    (injectorId : String) : List FaultConfig :=
  scenario.faults.filter fun fault =>
    fault.injectorId = injectorId

end ScenarioConfig

/- The fault is among those requested active at startup. -/
def isInitiallyActive
    (fault : FaultConfig)
    (initiallyActiveFaults : List String) : Bool :=
  fault.id ∈ initiallyActiveFaults

------------------------------------------------------------
-- Lookup
------------------------------------------------------------

namespace ScenarioConfig

theorem mem_of_findInjector
    {scenario : ScenarioConfig}
    {injectorId : String}
    {injector : InjectorConfig}
    (hFind :
      scenario.findInjector injectorId = some injector) :
    injector ∈ scenario.injectors ∧
      injector.id = injectorId := by
  have hMember := List.mem_of_find?_eq_some hFind
  have hId := List.find?_some hFind
  exact ⟨hMember, by simpa using hId⟩

@[simp] theorem mem_targetedFaults_iff
    (scenario : ScenarioConfig)
    (injectorId : String)
    (fault : FaultConfig) :
    fault ∈ scenario.targetedFaults injectorId ↔
      fault ∈ scenario.faults ∧
        fault.injectorId = injectorId := by
  simp [targetedFaults]

end ScenarioConfig
