import FaultInjection.Foundations.KeepLast
import FaultInjection.Foundations.WeakCallbacks
import FaultInjection.Core.FaultInjectorBase

/-
  The state a fault controller owns, with the node it runs on
  and the subscription that receives its events.

  Key definitions include:
    * `FaultEvent`
    * `FaultEventRecord`
    * `Callback`
    * `FaultController`
    * `FaultController.publishEvent`
-/

------------------------------------------------------------
-- Events
------------------------------------------------------------

/- A fault lifecycle event before it gets a stamp. -/
structure FaultEvent where
  faultId : String
  injectorId : String
  state : String
  source : String
  details : String
deriving DecidableEq

/- The published message. -/
structure FaultEventMessage extends FaultEvent where
  stamp : Int
deriving DecidableEq

/- The recorded event. -/
structure FaultEventRecord extends FaultEvent where
  stamp : Int
deriving DecidableEq

def toRecord
    (event : FaultEvent)
    (timestamp : Int) : FaultEventRecord :=
  { event with stamp := timestamp }

/- The recorded events, oldest first. -/
structure FaultEventRecorder where
  events : List FaultEventRecord := []
deriving DecidableEq

namespace FaultEventRecorder

def record
    (recorder : FaultEventRecorder)
    (event : FaultEventRecord) : FaultEventRecorder :=
  { recorder with events := recorder.events ++ [event] }

def eventsForFault
    (recorder : FaultEventRecorder)
    (faultId : String) : List FaultEventRecord :=
  recorder.events.filter fun event => event.faultId = faultId

end FaultEventRecorder

------------------------------------------------------------
-- Controller
------------------------------------------------------------

/- Who holds a callback entity. -/
inductive Owner where
| scheduler : Owner
| members : Owner
deriving DecidableEq

/-
  The entities a controller creates besides the scheduler's
  timers. An injector's subscription, service, client and
  timer are one entity here: it owns them all alike.
-/
inductive Member where
| faultEventSubscription : Member
| assertionSubscription : String → Member
| assertionTimer : Member
| injector : String → Member
| outputConflictTimer : Member
deriving DecidableEq

/-
  What an entity runs. The scheduler's timers capture a
  reference to the injector and a copy of the fault.
-/
inductive Callback where
| startFault : String → FaultConfig → Callback
| stopFault : String → FaultConfig → Callback
| member : Member → Callback
deriving DecidableEq

namespace Callback

/- The callback belongs to a timer of the scheduler. -/
def isScheduled : Callback → Bool
| .startFault _ _ => true
| .stopFault _ _ => true
| .member _ => false

end Callback

/-
  The running scenario with its injectors and recorded
  events, the timers the scheduler holds, the node, and the
  runner's subscription to fault events. The generation
  counts the scenarios loaded so far; no code reads it.
-/
structure FaultController where
  node : CallbackNode Owner Callback := {}
  scenario : ScenarioConfig := {}
  injectors : UnorderedMap String FaultInjectorBase := .empty
  recorder : FaultEventRecorder := {}
  timers : List Nat := []
  subscription : KeepLast.Subscription FaultEventMessage :=
    { depth := 10 }
  generation : Nat := 0

namespace FaultController

/- The injector that a reference to it denotes. -/
def injector?
    (c : FaultController)
    (key : String) : Option FaultInjectorBase :=
  c.injectors.find? key

/- The id that the injector reports. -/
def injectorId
    (c : FaultController)
    (key : String) : String :=
  match c.injector? key with
  | some injector => injector.id
  | none => key

/- Call a method of an injector that changes it. -/
def modifyInjector
    (c : FaultController)
    (key : String)
    (f : FaultInjectorBase → FaultInjectorBase) :
    FaultController :=
  { c with injectors := c.injectors.modify key f }

/-
  Publish an event and record it. The message and the record
  both carry the node's present time.
-/
def publishEvent
    (c : FaultController)
    (event : FaultEvent) : FaultController :=
  { c with
    subscription :=
      c.subscription.publish
        { event with stamp := c.node.rosNow }
    recorder :=
      c.recorder.record (toRecord event c.node.rosNow) }

/- Create an entity that a member of the controller holds. -/
def createMember
    (c : FaultController)
    (member : Member) : FaultController :=
  { c with
    node :=
      c.node.createMember .members c.generation
        (.member member) }

/- The injector of the key has the fault. -/
def hasFault
    (c : FaultController)
    (key faultId : String) : Bool :=
  (c.injector? key).any fun injector =>
    injector.hasFault faultId

/- The injector of the key has the fault active. -/
def isActive
    (c : FaultController)
    (key faultId : String) : Bool :=
  (c.injector? key).any fun injector =>
    injector.isActive faultId

end FaultController

------------------------------------------------------------
-- Frame Conditions
------------------------------------------------------------

namespace FaultController

variable (c : FaultController)
variable (key : String)
variable (f : FaultInjectorBase → FaultInjectorBase)
variable (event : FaultEvent)
variable (member : Member)

@[simp] theorem modifyInjector_node :
    (c.modifyInjector key f).node = c.node := rfl

@[simp] theorem modifyInjector_scenario :
    (c.modifyInjector key f).scenario = c.scenario := rfl

@[simp] theorem modifyInjector_recorder :
    (c.modifyInjector key f).recorder = c.recorder := rfl

@[simp] theorem modifyInjector_timers :
    (c.modifyInjector key f).timers = c.timers := rfl

@[simp] theorem modifyInjector_subscription :
    (c.modifyInjector key f).subscription =
      c.subscription := rfl

@[simp] theorem modifyInjector_generation :
    (c.modifyInjector key f).generation = c.generation := rfl

@[simp] theorem modifyInjector_keys :
    (c.modifyInjector key f).injectors.keys =
      c.injectors.keys :=
  UnorderedMap.keys_modify _ _ _

theorem injector?_modifyInjector (otherKey : String) :
    (c.modifyInjector key f).injector? otherKey =
      if key = otherKey then
        (c.injector? otherKey).map f
      else
        c.injector? otherKey :=
  UnorderedMap.find?_modify _ _ _ _

theorem injector?_modifyInjector_isSome
    (otherKey : String) :
    ((c.modifyInjector key f).injector? otherKey).isSome =
      (c.injector? otherKey).isSome := by
  rw [injector?_modifyInjector]
  split
  · cases c.injector? otherKey with
    | none => rfl
    | some injector => rfl
  · rfl

/- A method that keeps the registered faults keeps them here. -/
theorem hasFault_modifyInjector
    (hKeep :
      ∀ injector, c.injector? key = some injector →
        ∀ faultId,
          (f injector).hasFault faultId =
            injector.hasFault faultId)
    (otherKey faultId : String) :
    (c.modifyInjector key f).hasFault otherKey faultId =
      c.hasFault otherKey faultId := by
  unfold hasFault
  rw [injector?_modifyInjector]
  split
  · rename_i hSame
    subst hSame
    cases hInjector : c.injector? key with
    | none => rfl
    | some injector => exact hKeep injector hInjector faultId
  · rfl

/- A method that keeps the flags keeps them here. -/
theorem isActive_modifyInjector
    (hKeep :
      ∀ injector, c.injector? key = some injector →
        ∀ faultId,
          (f injector).isActive faultId =
            injector.isActive faultId)
    (otherKey faultId : String) :
    (c.modifyInjector key f).isActive otherKey faultId =
      c.isActive otherKey faultId := by
  unfold isActive
  rw [injector?_modifyInjector]
  split
  · rename_i hSame
    subst hSame
    cases hInjector : c.injector? key with
    | none => rfl
    | some injector => exact hKeep injector hInjector faultId
  · rfl

/- Setting a flag changes that flag of a known fault only. -/
theorem isActive_setActive
    (faultId : String)
    (value : Bool)
    (otherKey otherId : String) :
    (c.modifyInjector key fun injector =>
        injector.setActive faultId value).isActive otherKey
          otherId =
      if key = otherKey ∧ faultId = otherId ∧
          c.hasFault key faultId = true then
        value
      else
        c.isActive otherKey otherId := by
  unfold isActive hasFault
  rw [injector?_modifyInjector]
  by_cases hKey : key = otherKey
  · subst hKey
    cases hInjector : c.injector? key with
    | none => simp
    | some injector =>
        simp [FaultInjectorBase.isActive_setActive]
  · simp [hKey]

@[simp] theorem hasFault_setActive
    (faultId : String)
    (value : Bool)
    (otherKey otherId : String) :
    (c.modifyInjector key fun injector =>
        injector.setActive faultId value).hasFault otherKey
          otherId =
      c.hasFault otherKey otherId := by
  apply hasFault_modifyInjector
  intro injector _ anyId
  exact FaultInjectorBase.hasFault_setActive injector anyId
    value faultId

@[simp] theorem publishEvent_node :
    (c.publishEvent event).node = c.node := rfl

@[simp] theorem publishEvent_scenario :
    (c.publishEvent event).scenario = c.scenario := rfl

@[simp] theorem publishEvent_injectors :
    (c.publishEvent event).injectors = c.injectors := rfl

@[simp] theorem publishEvent_timers :
    (c.publishEvent event).timers = c.timers := rfl

@[simp] theorem publishEvent_generation :
    (c.publishEvent event).generation = c.generation := rfl

@[simp] theorem publishEvent_events :
    (c.publishEvent event).recorder.events =
      c.recorder.events ++
        [toRecord event c.node.rosNow] := rfl

@[simp] theorem publishEvent_subscription :
    (c.publishEvent event).subscription =
      c.subscription.publish
        { event with stamp := c.node.rosNow } := rfl

@[simp] theorem createMember_scenario :
    (c.createMember member).scenario = c.scenario := rfl

@[simp] theorem createMember_injectors :
    (c.createMember member).injectors = c.injectors := rfl

@[simp] theorem createMember_recorder :
    (c.createMember member).recorder = c.recorder := rfl

@[simp] theorem createMember_timers :
    (c.createMember member).timers = c.timers := rfl

@[simp] theorem createMember_subscription :
    (c.createMember member).subscription =
      c.subscription := rfl

@[simp] theorem createMember_generation :
    (c.createMember member).generation = c.generation := rfl

end FaultController
