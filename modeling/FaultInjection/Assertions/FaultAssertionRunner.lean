import FaultInjection.Assertions.FaultEventAssertion
import FaultInjection.Assertions.ScenarioMonitor
import FaultInjection.Assertions.TopicHzAssertion
import FaultInjection.Foundations.Outcome

/-
  The runner of all assertions of a scenario.

  Its callbacks are those of the fault event subscription,
  of the message subscriptions and of its timer. A callback
  that throws ends the run.

  Key definitions include:
    * `FaultAssertionRunner`
    * `FaultAssertionRunner.start`
    * `FaultAssertionRunner.onFaultEvent`
    * `FaultAssertionRunner.update`
    * `FaultAssertionRunner.step`
-/

------------------------------------------------------------
-- Messages
------------------------------------------------------------

def assertionStateToString : AssertionState → String
| .pending => "pending"
| .passed => "passed"
| .failed => "failed"

/- The message published when an assertion is decided. -/
structure AssertionEvent where
  stamp : Int
  assertionId : String
  assertionType : String
  state : String
  message : String
deriving DecidableEq

def assertionEvent
    (result : AssertionResult)
    (stamp : Int) : AssertionEvent where
  stamp := stamp
  assertionId := result.id
  assertionType := result.type
  state := assertionStateToString result.state
  message := result.message

/-
  A message that was published, by what it was made of: the
  result or the results, and its stamp.
-/
inductive Publication where
| assertionEvent : AssertionResult → Int → Publication
| scenarioStatus : List AssertionResult → Int → Publication
deriving DecidableEq

/- The published assertion events, oldest first. -/
def assertionEvents
    (log : List Publication) : List AssertionEvent :=
  log.filterMap fun
    | .assertionEvent result stamp =>
        some (assertionEvent result stamp)
    | .scenarioStatus _ _ => none

/- The published scenario statuses, oldest first. -/
def scenarioStatuses
    (log : List Publication) : List ScenarioStatus :=
  log.filterMap fun
    | .assertionEvent _ _ => none
    | .scenarioStatus results stamp =>
        some (ScenarioMonitor.status results stamp)

------------------------------------------------------------
-- Runner
------------------------------------------------------------

/- Times are in nanoseconds. -/
structure FaultAssertionRunner where
  startTime : Int := 0
  faultEventAssertions : List FaultEventAssertion := []
  topicHzAssertions : List TopicHzAssertion := []
  twistStoppedAssertions : List TwistStoppedAssertion := []
  lastPublishedStates :
    UnorderedMap String AssertionState := .empty
  published : List Publication := []
deriving DecidableEq

namespace FaultAssertionRunner

/- Create one assertion; an unknown type is only logged. -/
def startAssertion
    (r : FaultAssertionRunner)
    (config : AssertionConfig) : FaultAssertionRunner :=
  if config.type = "fault_event" then
    { r with
      faultEventAssertions :=
        r.faultEventAssertions ++
          [FaultEventAssertion.create config] }
  else if config.type = "topic_hz" then
    { r with
      topicHzAssertions :=
        r.topicHzAssertions ++
          [TopicHzAssertion.create config] }
  else if config.type = "twist_stopped" then
    { r with
      twistStoppedAssertions :=
        r.twistStoppedAssertions ++
          [TwistStoppedAssertion.create config
            r.startTime] }
  else
    r

def start
    (now : Int)
    (assertions : List AssertionConfig)
    (r : FaultAssertionRunner) : FaultAssertionRunner :=
  assertions.foldl startAssertion
    { startTime := now
      published := r.published }

def results
    (r : FaultAssertionRunner) : List AssertionResult :=
  r.faultEventAssertions.map FaultEventAssertion.result ++
    (r.topicHzAssertions.map TopicHzAssertion.result ++
      r.twistStoppedAssertions.map
        TwistStoppedAssertion.result)

------------------------------------------------------------
-- Publishing
------------------------------------------------------------

/- Publish one result unless it was published already. -/
def publishResult
    (stampOf : String → Int)
    (r : FaultAssertionRunner)
    (result : AssertionResult) : FaultAssertionRunner :=
  if result.state = .pending then
    r
  else if
    r.lastPublishedStates.find? result.id = some result.state
  then
    r
  else
    { r with
      published :=
        r.published ++
          [.assertionEvent result (stampOf result.id)]
      lastPublishedStates :=
        r.lastPublishedStates.insert result.id result.state }

/- The clock is read anew for each event. -/
def publishAssertionEvent
    (stampOf : String → Int)
    (r : FaultAssertionRunner) : FaultAssertionRunner :=
  r.results.foldl (publishResult stampOf) r

/- The monitor publishes the summary of all results. -/
def publishStatus
    (stamp : Int)
    (r : FaultAssertionRunner) : FaultAssertionRunner :=
  { r with
    published :=
      r.published ++ [.scenarioStatus r.results stamp] }

------------------------------------------------------------
-- Callbacks
------------------------------------------------------------

/-
  What a callback reads of the clock: at its start, for each
  assertion event and for the status.
-/
structure Readings where
  now : Int
  eventStamp : String → Int
  statusStamp : Int

/- Change the item at an index, which must exist. -/
def changeAt
    {α : Type}
    (change : α → Option α) : List α → Nat → Option (List α)
| [], _ => none
| x :: xs, 0 => (change x).map fun y => y :: xs
| x :: xs, n + 1 =>
    (changeAt change xs n).map fun ys => x :: ys

def onFaultEvent
    (fromSeconds : Number → Int)
    (event : FaultEventMessage)
    (stampOf : String → Int)
    (r : FaultAssertionRunner) :
    Option FaultAssertionRunner := do
  let twistStoppedAssertions ←
    r.twistStoppedAssertions.mapM fun assertion =>
      assertion.observeFaultEvent fromSeconds
        event.toFaultEvent event.stamp
  return publishAssertionEvent stampOf
    { r with
      faultEventAssertions :=
        r.faultEventAssertions.map fun assertion =>
          assertion.observe event.toFaultEvent
      twistStoppedAssertions := twistStoppedAssertions }

/- The subscription of the topic rate at an index. -/
def onTopicHzMessage
    (index : Nat)
    (now : Int)
    (r : FaultAssertionRunner) :
    Option FaultAssertionRunner := do
  let topicHzAssertions ←
    changeAt
      (fun assertion => some (assertion.observeMessage now))
      r.topicHzAssertions index
  return { r with topicHzAssertions := topicHzAssertions }

/- The subscription of the stopped commands at an index. -/
def onTwistMessage
    (fromSeconds : Number → Int)
    (index : Nat)
    (message : Twist)
    (now : Int)
    (r : FaultAssertionRunner) :
    Option FaultAssertionRunner := do
  let twistStoppedAssertions ←
    changeAt
      (fun assertion =>
        assertion.observeMessage fromSeconds message now)
      r.twistStoppedAssertions index
  let updated :=
    { r with
      twistStoppedAssertions := twistStoppedAssertions }
  return updated

def update
    (fromSeconds : Number → Int)
    (readings : Readings)
    (r : FaultAssertionRunner) :
    Option FaultAssertionRunner := do
  let now := readings.now
  let elapsedSeconds :=
    Number.finite (seconds (now - r.startTime))
  let twistStoppedAssertions ←
    r.twistStoppedAssertions.mapM fun assertion =>
      assertion.update fromSeconds now
  let updated :=
    { r with
      faultEventAssertions :=
        r.faultEventAssertions.map fun assertion =>
          assertion.update elapsedSeconds
      topicHzAssertions :=
        r.topicHzAssertions.map fun assertion =>
          assertion.update elapsedSeconds now
      twistStoppedAssertions := twistStoppedAssertions }
  return publishStatus readings.statusStamp
    (publishAssertionEvent readings.eventStamp updated)

inductive Call where
| faultEvent : FaultEventMessage → (String → Int) → Call
| topicHzMessage : Nat → Int → Call
| twistMessage : Nat → Twist → Int → Call
| update : Readings → Call

def step
    (fromSeconds : Number → Int)
    (r : FaultAssertionRunner) :
    Call → Option FaultAssertionRunner
| .faultEvent event stampOf =>
    r.onFaultEvent fromSeconds event stampOf
| .topicHzMessage index now => r.onTopicHzMessage index now
| .twistMessage index message now =>
    r.onTwistMessage fromSeconds index message now
| .update readings => r.update fromSeconds readings

end FaultAssertionRunner
