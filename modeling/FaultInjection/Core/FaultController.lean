import FaultInjection.Config.ScenarioValidator
import FaultInjection.Core.FaultScheduler

/-
  The controller of one scenario: it creates the injectors,
  registers each fault with the injector it names, schedules
  activation, and reloads the scenario file.

  Key definitions include:
    * `FaultController.construct`
    * `FaultController.validateReloadCompatible`
    * `FaultController.checkReload`
    * `FaultController.applyReload`
    * `FaultController.reloadScenario`
-/

------------------------------------------------------------
-- Construction
------------------------------------------------------------

namespace FaultController

/-
  Start the assertion runner: its subscriptions and its timer
  are created before any fault is scheduled.
-/
def startAssertionRunner
    (c : FaultController) : FaultController :=
  let subscribed :=
    c.scenario.assertions.foldl
      (fun c assertion =>
        if assertion.type = "topic_hz" ∨
            assertion.type = "twist_stopped" then
          c.createMember (.assertionSubscription assertion.id)
        else
          c)
      c
  (subscribed.createMember .faultEventSubscription).createMember
    .assertionTimer

/-
  Create an injector unless no plugin provides its type. A
  plugin that does is named by the factory.
-/
def createInjector
    (factory : InjectorConfig → Bool)
    (c : FaultController)
    (config : InjectorConfig) : FaultController :=
  if factory config then
    let created :=
      { c with
        injectors :=
          c.injectors.insert config.id { config := config } }
    created.createMember (.injector config.id)
  else
    c

def createInjectors
    (factory : InjectorConfig → Bool)
    (c : FaultController) : FaultController :=
  c.scenario.injectors.foldl (createInjector factory) c

/- Register a fault; an unknown injector's is skipped. -/
def registerFault
    (c : FaultController)
    (fault : FaultConfig) : FaultController :=
  c.modifyInjector fault.injectorId fun injector =>
    injector.addFault fault

def registerFaults (c : FaultController) : FaultController :=
  c.scenario.faults.foldl registerFault c

/- Schedule the faults of each injector in iteration order. -/
def scheduleFaults
    (h : HashOrder String)
    (c : FaultController) : Outcome FaultController :=
  Outcome.forEach
    (fun key =>
      FaultScheduler.schedule (c.scenario.targetedFaults key)
        key c.scenario.initiallyActiveFaults)
    (h.order c.injectors.keys) c

/- The constructor, on a node that may be in use already. -/
def construct
    (h : HashOrder String)
    (factory : InjectorConfig → Bool)
    (node : CallbackNode Owner Callback)
    (generation : Nat)
    (scenario : ScenarioConfig) : Outcome FaultController :=
  let started :=
    startAssertionRunner
      { node := node
        scenario := scenario
        generation := generation }
  let registered :=
    registerFaults (createInjectors factory started)
  (scheduleFaults h registered).bind fun c =>
    .done (c.createMember .outputConflictTimer)

end FaultController

------------------------------------------------------------
-- Reload
------------------------------------------------------------

structure ReloadScenarioResult where
  success : Bool
  message : String
deriving DecidableEq

namespace FaultController

/- Why one injector cannot take its new configuration. -/
def incompatibility
    (current updated : InjectorConfig) : Option String :=
  let about (what : String) :=
    some ("Reload cannot change " ++ what ++
      " for injector '" ++ current.id ++ "'")
  if updated.seed ≠ current.seed then
    some ("Reload cannot change seed for injector '" ++
      current.id ++ "'; restart required")
  else if updated.type ≠ current.type then
    about "type"
  else if current.topic.isSome ≠ updated.topic.isSome then
    about "endpoint kind"
  else if current.topic.isSome ∧
      updated.topic ≠ current.topic then
    about "topic endpoints"
  else if current.triggerService.isSome ≠
      updated.triggerService.isSome then
    about "endpoint kind"
  else if current.triggerService.isSome ∧
      updated.triggerService ≠ current.triggerService then
    about "service endpoints"
  else
    none

/- The first problem with a running injector, if any. -/
def firstIncompatibility
    (newScenario : ScenarioConfig) :
    List InjectorConfig → Option String
| [] => none
| current :: rest =>
    match newScenario.findInjector current.id with
    | none =>
        some
          ("Reload cannot remove injector '" ++
            current.id ++ "'")
    | some updated =>
        match incompatibility current updated with
        | some problem => some problem
        | none => firstIncompatibility newScenario rest

def validateReloadCompatible
    (c : FaultController)
    (newScenario : ScenarioConfig) : ReloadScenarioResult :=
  if newScenario.injectors.length ≠
      c.scenario.injectors.length then
    ⟨false, "Reload cannot change the number of injectors"⟩
  else
    match
      firstIncompatibility newScenario c.scenario.injectors
    with
    | some problem => ⟨false, problem⟩
    | none =>
        ⟨true, "Scenario is compatible with running injectors"⟩

/-
  Everything the reload does before it changes the state:
  load the file, validate it and compare the injectors. The
  content is what loading the file yields.
-/
def checkReload
    (h : HashOrder String)
    (c : FaultController)
    (content : Except String ScenarioConfig) :
    Except ReloadScenarioResult ScenarioConfig :=
  match content with
  | .error what =>
      .error
        ⟨false, "failed to load scenario config: " ++ what⟩
  | .ok newScenario =>
      let validation := validateScenario h newScenario
      if ¬ validation.ok then
        .error
          ⟨false,
            validation.errors.foldl
              (fun message error => message ++ "; " ++ error)
              "Scenario validation failed"⟩
      else
        let compatibility :=
          c.validateReloadCompatible newScenario
        if ¬ compatibility.success then
          .error compatibility
        else
          .ok newScenario

/- Drop the timers and the faults of the old scenario. -/
def clearScenario
    (newScenario : ScenarioConfig)
    (c : FaultController) : FaultController :=
  let cleared := FaultScheduler.clear c
  { cleared with
    injectors :=
      cleared.injectors.mapValues
        FaultInjectorBase.clearFaults
    scenario := newScenario
    generation := cleared.generation + 1 }

/- Everything the reload does once it changes the state. -/
def applyReload
    (h : HashOrder String)
    (newScenario : ScenarioConfig)
    (c : FaultController) : Outcome FaultController :=
  scheduleFaults h
    (registerFaults (clearScenario newScenario c))

/- The state a reload leaves. -/
def reloadScenario
    (h : HashOrder String)
    (content : Except String ScenarioConfig)
    (c : FaultController) : Outcome FaultController :=
  match c.checkReload h content with
  | .error _ => .done c
  | .ok newScenario => applyReload h newScenario c

/- The result a reload returns, none when it throws. -/
def reloadScenarioResult
    (h : HashOrder String)
    (content : Except String ScenarioConfig)
    (c : FaultController) : Option ReloadScenarioResult :=
  match c.checkReload h content with
  | .error result => some result
  | .ok newScenario =>
      if (applyReload h newScenario c).returned then
        some ⟨true, "Scenario reloaded successfully"⟩
      else
        none

end FaultController
