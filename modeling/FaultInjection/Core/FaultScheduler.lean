import FaultInjection.Foundations.Outcome
import FaultInjection.Core.ControllerState

/-
  Startup and timed fault activation.

  Key definitions include:
    * `FaultScheduler.scheduleStart`
    * `FaultScheduler.scheduleStopAfter`
    * `FaultScheduler.schedule`
    * `FaultScheduler.clear`
    * `FaultScheduler.runStart`
    * `FaultScheduler.runStop`
-/

------------------------------------------------------------
-- Durations
------------------------------------------------------------

namespace FaultScheduler

/- The sum of two 64-bit millisecond counts. -/
def addMilliseconds (a b : Int) : Int :=
  (a + b).bmod (2 ^ 64)

end FaultScheduler

------------------------------------------------------------
-- Timers
------------------------------------------------------------

namespace FaultScheduler

/-
  Create a one-shot timer after the delay, at least one
  millisecond, and keep it. Its callback captures the cell
  `timer_holder`, which holds the timer.
-/
def scheduleTimer
    (callback : Callback)
    (delay : Int)
    (c : FaultController) : Outcome FaultController :=
  match
    c.node.createWallTimer .scheduler c.generation
      (max delay 1) callback
  with
  | none => .threw c
  | some node =>
      .done
        { c with
          node := node
          timers := c.timers ++ [c.node.entities.length] }

def scheduleStart
    (key : String)
    (fault : FaultConfig)
    (start : Int) : FaultController → Outcome FaultController :=
  scheduleTimer (.startFault key fault) start

def scheduleStopAfter
    (key : String)
    (fault : FaultConfig)
    (delay : Int) : FaultController → Outcome FaultController :=
  scheduleTimer (.stopFault key fault) delay

def scheduleStop
    (key : String)
    (fault : FaultConfig)
    (start duration : Int) :
    FaultController → Outcome FaultController :=
  scheduleStopAfter key fault (addMilliseconds start duration)

/- The event of a state change that the scheduler makes. -/
def scheduledEvent
    (c : FaultController)
    (key : String)
    (fault : FaultConfig)
    (state source : String) : FaultEvent where
  faultId := fault.id
  injectorId := c.injectorId key
  state := state
  source := source
  details := describeConfig fault.config

/- Activate a fault at startup and publish the event. -/
def activateNow
    (key : String)
    (fault : FaultConfig)
    (c : FaultController) : FaultController :=
  let activated :=
    c.modifyInjector key fun injector =>
      injector.activateFault fault.id
  activated.publishEvent
    (scheduledEvent activated key fault "active" "startup")

/- Schedule one fault of an injector. -/
def scheduleFault
    (initiallyActiveFaults : List String)
    (key : String)
    (fault : FaultConfig)
    (c : FaultController) : Outcome FaultController :=
  if isInitiallyActive fault initiallyActiveFaults then
    match fault.duration with
    | some duration =>
        scheduleStopAfter key fault duration
          (activateNow key fault c)
    | none => .done (activateNow key fault c)
  else
    match fault.start with
    | none => .done c
    | some start =>
        (scheduleStart key fault start c).bind fun c =>
          match fault.duration with
          | some duration =>
              scheduleStop key fault start duration c
          | none => .done c

/- Schedule all faults that belong to one injector. -/
def schedule
    (faults : List FaultConfig)
    (key : String)
    (initiallyActiveFaults : List String) :
    FaultController → Outcome FaultController :=
  Outcome.forEach
    (scheduleFault initiallyActiveFaults key) faults

/- Drop the timers the scheduler holds. -/
def clear (c : FaultController) : FaultController :=
  { c with
    timers := []
    node := c.node.release .scheduler }

end FaultScheduler

------------------------------------------------------------
-- Timer Callbacks
------------------------------------------------------------

namespace FaultScheduler

/- The callback of a start timer. -/
def runStart
    (n : Nat)
    (key : String)
    (fault : FaultConfig)
    (c : FaultController) : FaultController :=
  let cancelled := { c with node := c.node.cancel n }
  let activated :=
    cancelled.modifyInjector key fun injector =>
      injector.activateFault fault.id
  activated.publishEvent
    (scheduledEvent activated key fault "active" "scheduled")

/- The callback of a stop timer. -/
def runStop
    (n : Nat)
    (key : String)
    (fault : FaultConfig)
    (c : FaultController) : FaultController :=
  let cancelled := { c with node := c.node.cancel n }
  let deactivated :=
    cancelled.modifyInjector key fun injector =>
      injector.deactivateFault fault.id
  deactivated.publishEvent
    (scheduledEvent deactivated key fault "inactive"
      "scheduled")

end FaultScheduler
