import FaultInjection.Foundations.Transition
import FaultInjection.Core.FaultServiceManager

/-
  Runs of a controller: time passes, the executor runs the
  callbacks of the node one at a time, and requests arrive.

  An exception that leaves a reload ends the node's process,
  because `main` spins the node without catching anything. A
  caller of the controller may catch it and go on.

  Key definitions include:
    * `FaultController.Action`
    * `FaultController.runCallback`
    * `FaultController.step`
    * `FaultController.nodeStep`
    * `FaultController.Started`
-/

------------------------------------------------------------
-- Actions
------------------------------------------------------------

namespace FaultController

open FaultServiceManager

/-
  What can happen next. A reload comes with what loading the
  scenario file yields at that moment. The requests that only
  read the state are left out.
-/
inductive Action where
| advance : Nat → Int → Action
| callback : Nat → Action
| setFaultState : SetFaultStateRequest → Action
| setFaultConfig : SetFaultConfigRequest → Action
| reloadScenario : Except String ScenarioConfig → Action
| deliver : Action

/-
  Run the callback of an entity. The message and assertion
  callbacks of the members change no fault.
-/
def runCallback
    (c : FaultController)
    (n : Nat) : Callback → FaultController
| .startFault key fault => FaultScheduler.runStart n key fault c
| .stopFault key fault => FaultScheduler.runStop n key fault c
| .member _ => c

/- Run the callback of an entity that is ready. -/
def fire
    (c : FaultController)
    (n : Nat) : Option FaultController :=
  (c.node.ready n).map fun e => c.runCallback n e.callback

/- Hand the oldest queued event to the assertion runner. -/
def deliver (c : FaultController) : Option FaultController :=
  c.subscription.deliver.map fun subscription =>
    { c with subscription := subscription }

/- Perform an action; after an exception go on as a caller. -/
def step
    (h : HashOrder String)
    (c : FaultController) :
    Action → Option FaultController
| .advance elapsed rosNow =>
    some { c with node := c.node.advance elapsed rosNow }
| .callback n => c.fire n
| .setFaultState request =>
    some (handleSetFaultState h request c).1
| .setFaultConfig request =>
    some (handleSetFaultConfig h request c).1
| .reloadScenario content =>
    some (c.reloadScenario h content).state
| .deliver => c.deliver

/- An exception leaves the callback that the action runs. -/
def throws
    (h : HashOrder String)
    (c : FaultController) : Action → Bool
| .reloadScenario content =>
    ¬ (c.reloadScenario h content).returned
| _ => false

/- Perform an action; an exception ends the process. -/
def nodeStep
    (h : HashOrder String)
    (c : FaultController)
    (a : Action) : Option FaultController :=
  if c.throws h a then none else c.step h a

/-
  The state set up by a constructor that returned, on a new
  node and at any time.
-/
def Started
    (h : HashOrder String)
    (factory : InjectorConfig → Bool)
    (scenario : ScenarioConfig)
    (c : FaultController) : Prop :=
  ∃ steadyNow rosNow,
    construct h factory
        { steadyNow := steadyNow, rosNow := rosNow } 0
        scenario =
      .done c

end FaultController
