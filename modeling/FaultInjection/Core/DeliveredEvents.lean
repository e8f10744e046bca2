import FaultInjection.Assertions.SeparateAssertions
import FaultInjection.Core.EventDelivery
import FaultInjection.Core.EventReplay

/-
  What the assertions of a running node hear.

  The events that the node publishes wait in the subscription
  of its assertion runner, which the executor serves among
  the other callbacks. Where a fault event assertion stands
  is decided by the first event or tick that concerns it.

  Key definitions include:
    * `FaultAssertionRunner.Heard`
    * `FaultAssertionRunner.judge`
    * `MonitoredController.Occurrence`
    * `MonitoredController.occur`
    * `MonitoredController.heard`

  Key theorems include:
    * `FaultAssertionRunner.standings_step`
    * `MonitoredController.run_controller`
    * `MonitoredController.standings_of_started_run`
    * `MonitoredController.heard_recorded`
    * `MonitoredController.fault_event_verdicts`
-/

------------------------------------------------------------
-- Judging What Is Heard
------------------------------------------------------------

namespace FaultAssertionRunner

/- A delivered event, or a tick at the seconds since start. -/
inductive Heard where
| event : FaultEvent → Heard
| tick : Number → Heard

def Heard.event? : Heard → Option FaultEvent
| .event e => some e
| .tick _ => none

/- What a fault event assertion concludes from what it hears. -/
def judge (config : AssertionConfig) :
    Heard → Option AssertionState
| .event e =>
    if e.faultId = config.faultId ∧ e.state = config.state then
      some .passed
    else
      none
| .tick elapsedSeconds =>
    if
      config.within.any fun within =>
        ¬ elapsedSeconds.le within
    then
      some .failed
    else
      none

/- What a call lets the fault event assertions hear. -/
def heardBy (r : FaultAssertionRunner) : Call → List Heard
| .faultEvent event _ => [.event event.toFaultEvent]
| .topicHzMessage _ _ => []
| .twistMessage _ _ _ => []
| .update readings =>
    [.tick (.finite (seconds (readings.now - r.startTime)))]

/- What an assertion is about and its verdict, if it has one. -/
def standing
    (assertion : FaultEventAssertion) :
    AssertionConfig × Option AssertionState :=
  (assertion.config, verdict assertion.result.state)

/- The first of the inputs that decides makes the verdict. -/
def settle
    (inputs : List Heard)
    (entry : AssertionConfig × Option AssertionState) :
    AssertionConfig × Option AssertionState :=
  (entry.1, entry.2.or (inputs.findSome? (judge entry.1)))

theorem settle_nil
    (entry : AssertionConfig × Option AssertionState) :
    settle [] entry = entry := by
  simp [settle]

theorem settle_append
    (first second : List Heard)
    (entry : AssertionConfig × Option AssertionState) :
    settle (first ++ second) entry =
      settle second (settle first entry) := by
  simp [settle, List.findSome?_append, Option.or_assoc]

theorem standing_observe
    (event : FaultEvent)
    (assertion : FaultEventAssertion) :
    standing (assertion.observe event) =
      settle [.event event] (standing assertion) := by
  unfold standing settle judge verdict
  by_cases hPending : assertion.result.state = .pending
  · unfold FaultEventAssertion.observe
    by_cases hFault :
        event.faultId = assertion.config.faultId
    · by_cases hState : event.state = assertion.config.state
      · simp [hPending, hFault, hState,
          FaultEventAssertion.conclude]
      · simp [hPending, hFault, hState]
    · simp [hPending, hFault]
  · rw [FaultEventAssertion.observe_of_decided hPending]
    simp [hPending]

theorem standing_update
    (elapsedSeconds : Number)
    (assertion : FaultEventAssertion) :
    standing (assertion.update elapsedSeconds) =
      settle [.tick elapsedSeconds] (standing assertion) := by
  unfold standing settle judge verdict
  by_cases hPending : assertion.result.state = .pending
  · unfold FaultEventAssertion.update
    cases hWithin : assertion.config.within with
    | none => simp [hPending]
    | some within =>
        by_cases hEarly : elapsedSeconds.le within = true
        · simp [hPending, hEarly]
        · simp [hPending, hEarly,
            FaultEventAssertion.conclude]
  · rw [FaultEventAssertion.update_of_decided hPending]
    simp [hPending]

/- A call settles the assertions with what it lets them hear. -/
theorem standings_step
    {fromSeconds : Number → Int}
    {r s : FaultAssertionRunner}
    {call : Call}
    (hStep : step fromSeconds r call = some s) :
    s.faultEventAssertions.map standing =
      (r.faultEventAssertions.map standing).map
        (settle (r.heardBy call)) := by
  rw [step_eq] at hStep
  rcases Option.map_eq_some_iff.mp hStep with
    ⟨u, hObserve, rfl⟩
  rw [(announce_keeps call u).2.1]
  cases call with
  | faultEvent event stampOf =>
      rcases Option.map_eq_some_iff.mp hObserve with ⟨_, _, rfl⟩
      rw [List.map_map, List.map_map]
      refine List.map_congr_left ?_
      exact fun assertion _ => standing_observe _ assertion
  | topicHzMessage index now =>
      rcases Option.map_eq_some_iff.mp hObserve with ⟨_, _, rfl⟩
      simp [heardBy, settle]
  | twistMessage index message now =>
      rcases Option.map_eq_some_iff.mp hObserve with ⟨_, _, rfl⟩
      simp [heardBy, settle]
  | update readings =>
      rcases Option.map_eq_some_iff.mp hObserve with ⟨_, _, rfl⟩
      rw [List.map_map, List.map_map]
      refine List.map_congr_left ?_
      exact fun assertion _ => standing_update _ assertion

end FaultAssertionRunner

------------------------------------------------------------
-- The Running Node
------------------------------------------------------------

namespace MonitoredController

open Transition FaultAssertionRunner

/-
  What can happen on a node: something happens to the
  controller, the executor delivers the oldest queued event,
  or another callback of the assertion runner is called. The
  clock is read for the assertion events that follow.
-/
inductive Occurrence where
| controller : FaultController.Action → Occurrence
| eventDelivery : (String → Int) → Occurrence
| runner : FaultAssertionRunner.Call → Occurrence

/- An event reaches the runner through its queue only. -/
def occur
    (fromSeconds : Number → Int)
    (h : HashOrder String)
    (s : MonitoredController) :
    Occurrence → Option MonitoredController
| .controller .deliver => none
| .controller a =>
    (s.controller.nodeStep h a).map fun controller =>
      { s with controller := controller }
| .eventDelivery stampOf => do
    let event ← s.controller.subscription.queue.head?
    let controller ← s.controller.deliver
    let runner ←
      s.runner.onFaultEvent fromSeconds event stampOf
    return { controller := controller, runner := runner }
| .runner (.faultEvent _ _) => none
| .runner call =>
    (s.runner.step fromSeconds call).map fun runner =>
      { s with runner := runner }

/- The action of the controller in it, if there is one. -/
def Occurrence.action? :
    Occurrence → Option FaultController.Action
| .controller a => some a
| .eventDelivery _ => some .deliver
| .runner _ => none

/- What the fault event assertions hear of it. -/
def heard (s : MonitoredController) : Occurrence → List Heard
| .controller _ => []
| .eventDelivery _ =>
    (s.controller.subscription.queue.head?.map fun event =>
      .event event.toFaultEvent).toList
| .runner call => s.runner.heardBy call

/- The published events that wait for their delivery. -/
def queuedEvents
    (s : MonitoredController) : List FaultEvent :=
  s.controller.subscription.queue.map
    FaultEventMessage.toFaultEvent

/- The events that the runner has been given. -/
def deliveredEvents
    (s : MonitoredController) : List FaultEvent :=
  s.controller.subscription.delivered.map
    FaultEventMessage.toFaultEvent

section Occurrences

variable {fromSeconds : Number → Int}
variable {h : HashOrder String}
variable {s t : MonitoredController}
variable {o : Occurrence}

/- The ways in which something can happen. -/
inductive Occurs
    (fromSeconds : Number → Int)
    (h : HashOrder String)
    (s : MonitoredController) :
    Occurrence → MonitoredController → Prop
| acted
    {a : FaultController.Action}
    {controller : FaultController} :
    a ≠ .deliver →
      s.controller.nodeStep h a = some controller →
        Occurs fromSeconds h s (.controller a)
          { s with controller := controller }
| delivered
    {stampOf : String → Int}
    {event : FaultEventMessage}
    {rest : List FaultEventMessage}
    {runner : FaultAssertionRunner} :
    s.controller.subscription.queue = event :: rest →
      s.runner.step fromSeconds (.faultEvent event stampOf) =
          some runner →
        Occurs fromSeconds h s (.eventDelivery stampOf)
          { controller :=
              { s.controller with
                subscription :=
                  { s.controller.subscription with
                    queue := rest
                    delivered :=
                      s.controller.subscription.delivered ++
                        [event] } }
            runner := runner }
| called
    {call : FaultAssertionRunner.Call}
    {runner : FaultAssertionRunner} :
    (∀ event stampOf, call ≠ .faultEvent event stampOf) →
      s.runner.step fromSeconds call = some runner →
      Occurs fromSeconds h s (.runner call)
        { s with runner := runner }

theorem occurs_of_occur
    (hOccur : occur fromSeconds h s o = some t) :
    Occurs fromSeconds h s o t := by
  unfold occur at hOccur
  split at hOccur
  · cases hOccur
  · rename_i a hNot
    rcases Option.map_eq_some_iff.mp hOccur with
      ⟨controller, hStep, rfl⟩
    exact .acted hNot hStep
  · rcases Option.bind_eq_some_iff.mp hOccur with
      ⟨event, hEvent, hRest⟩
    rcases Option.bind_eq_some_iff.mp hRest with
      ⟨controller, hDeliver, hRest⟩
    rcases Option.bind_eq_some_iff.mp hRest with
      ⟨runner, hCall, hEnd⟩
    cases hEnd
    rcases Option.map_eq_some_iff.mp hDeliver with
      ⟨subscription, hQueue, rfl⟩
    rcases KeepLast.deliver_eq_some_iff.mp hQueue with
      ⟨first, rest, hFirst, rfl⟩
    rw [hFirst, List.head?_cons, Option.some.injEq] at hEvent
    subst hEvent
    exact .delivered hFirst hCall
  · cases hOccur
  · rename_i call hNot
    rcases Option.map_eq_some_iff.mp hOccur with
      ⟨runner, hStep, rfl⟩
    exact .called hNot hStep

/- The controller performs the action in what happens. -/
theorem controller_occur
    (hOccur : occur fromSeconds h s o = some t) :
    (o.action? = none → t.controller = s.controller) ∧
      ∀ a, o.action? = some a →
        s.controller.nodeStep h a = some t.controller := by
  cases occurs_of_occur hOccur with
  | acted _ hStep =>
      refine ⟨?_, ?_⟩
      · intro hNone
        cases hNone
      · intro b hSame
        cases hSame
        exact hStep
  | delivered hQueue =>
      refine ⟨?_, ?_⟩
      · intro hNone
        cases hNone
      · intro b hSame
        cases hSame
        change
          (s.controller.subscription.deliver.map _) = some _
        rw [KeepLast.deliver_eq_some_iff.mpr
          ⟨_, _, hQueue, rfl⟩]
        exact rfl
  | called =>
      refine ⟨fun _ => rfl, ?_⟩
      intro b hSome
      cases hSome

/- The fault event assertions settle with what they hear. -/
theorem standings_occur
    (hOccur : occur fromSeconds h s o = some t) :
    t.runner.faultEventAssertions.map standing =
      (s.runner.faultEventAssertions.map standing).map
        (settle (s.heard o)) := by
  cases occurs_of_occur hOccur with
  | acted => simp [heard, settle]
  | delivered hQueue hCall =>
      rw [heard, hQueue]
      exact standings_step hCall
  | called _ hCall => exact standings_step hCall

/- The events they hear are those delivered. -/
theorem deliveredEvents_occur
    (hOccur : occur fromSeconds h s o = some t) :
    t.deliveredEvents =
      s.deliveredEvents ++
        (s.heard o).filterMap Heard.event? := by
  unfold deliveredEvents
  cases occurs_of_occur hOccur with
  | acted hNot hStep =>
      rcases FaultController.subscription_nodeStep hStep with
        ⟨hDeliver, _⟩ | ⟨messages, _, hPublished⟩
      · exact absurd hDeliver hNot
      · rw [hPublished, KeepLast.publishAll_delivered]
        simp [heard]
  | delivered hQueue hCall =>
      simp [heard, hQueue, Heard.event?]
  | @called call runner hNot hCall =>
      cases call with
      | faultEvent event stampOf =>
          exact absurd rfl (hNot event stampOf)
      | topicHzMessage => simp [heard, heardBy]
      | twistMessage => simp [heard, heardBy]
      | update => simp [heard, heardBy, Heard.event?]

/- What is queued after it was published in this order. -/
theorem inOrder_occur
    (hInOrder : KeepLast.InOrder s.controller.subscription)
    (hOccur : occur fromSeconds h s o = some t) :
    KeepLast.InOrder t.controller.subscription := by
  rcases controller_occur hOccur with ⟨hSame, hStep⟩
  cases hAction : o.action? with
  | none =>
      rw [hSame hAction]
      exact hInOrder
  | some a =>
      rcases FaultController.subscription_nodeStep
          (hStep a hAction) with
        ⟨_, hDeliver⟩ | ⟨messages, _, hPublished⟩
      · exact hInOrder.deliver hDeliver
      · rw [hPublished]
        exact hInOrder.publishAll messages

end Occurrences

------------------------------------------------------------
-- Runs
------------------------------------------------------------

section Runs

variable {fromSeconds : Number → Int}
variable {h : HashOrder String}
variable {factory : InjectorConfig → Bool}
variable {scenario : ScenarioConfig}
variable {s t : MonitoredController}
variable {occurrences : List Occurrence}

/- The controller runs as it would without its assertions. -/
theorem run_controller
    (hRun :
      run (occur fromSeconds h) s occurrences = some t) :
    run (FaultController.nodeStep h) s.controller
        (occurrences.filterMap Occurrence.action?) =
      some t.controller := by
  have hHears :
      ∃ c,
        run (FaultController.nodeStep h) s.controller
            (occurrences.filterMap Occurrence.action?) =
          some c ∧
          t.controller = c := by
    refine run_hears (R := fun u c => u.controller = c)
      ?_ ?_ rfl hRun
    · rintro u _ o v rfl hOccur hNone
      exact (controller_occur hOccur).1 hNone
    · rintro u _ o a v rfl hOccur hSome
      exact ⟨_, (controller_occur hOccur).2 a hSome, rfl⟩
  rcases hHears with ⟨c, hController, rfl⟩
  exact hController

/- Everything heard settles the assertions in turn. -/
theorem standings_run
    (hRun :
      run (occur fromSeconds h) s occurrences = some t) :
    t.runner.faultEventAssertions.map standing =
      (s.runner.faultEventAssertions.map standing).map
        (settle
          (outputs (occur fromSeconds h) heard s
            occurrences)) := by
  induction occurrences generalizing s with
  | nil =>
      rw [run, Option.some.injEq] at hRun
      subst hRun
      simp [outputs, settle]
  | cons o rest ih =>
      rcases run_cons_iff.mp hRun with ⟨m, hFirst, hRest⟩
      rw [ih hRest, standings_occur hFirst, outputs, hFirst,
        Option.elim_some, List.map_map]
      refine List.map_congr_left fun entry _ => ?_
      exact (settle_append _ _ entry).symm

/- The events heard are those delivered during the run. -/
theorem deliveredEvents_run
    (hRun :
      run (occur fromSeconds h) s occurrences = some t) :
    t.deliveredEvents =
      s.deliveredEvents ++
        (outputs (occur fromSeconds h) heard s
          occurrences).filterMap Heard.event? := by
  induction occurrences generalizing s with
  | nil =>
      rw [run, Option.some.injEq] at hRun
      subst hRun
      simp [outputs]
  | cons o rest ih =>
      rcases run_cons_iff.mp hRun with ⟨m, hFirst, hRest⟩
      rw [ih hRest, deliveredEvents_occur hFirst, outputs,
        hFirst, Option.elim_some, List.filterMap_append,
        List.append_assoc]

theorem Started.controller
    (hStarted : Started h factory scenario s) :
    FaultController.Started h factory scenario
      s.controller := by
  rcases hStarted with ⟨steadyNow, rosNow, hConstruct, _⟩
  exact ⟨steadyNow, rosNow, hConstruct⟩

/- At the start nothing has been delivered. -/
theorem deliveredEvents_of_started
    (hStarted : Started h factory scenario s) :
    s.deliveredEvents = [] ∧
      KeepLast.InOrder s.controller.subscription := by
  rcases FaultController.subscription_of_started
      hStarted.controller with
    ⟨messages, _, hPublished⟩
  unfold deliveredEvents
  rw [hPublished, KeepLast.publishAll_delivered]
  have hEmpty :
      KeepLast.InOrder
        ({ depth := 10 } :
          KeepLast.Subscription FaultEventMessage) :=
    List.Sublist.refl []
  exact ⟨rfl, hEmpty.publishAll messages⟩

/- The assertions of a scenario start without a verdict. -/
theorem standings_of_started
    (hStarted : Started h factory scenario s) :
    s.runner.faultEventAssertions.map standing =
      (scenario.assertions.filter fun config =>
        config.type = "fault_event").map fun config =>
          (config, none) := by
  rcases hStarted with ⟨_, rosNow, _, hRunner⟩
  rw [hRunner, FaultAssertionRunner.start_eq, List.map_map]
  refine List.map_congr_left fun config _ => ?_
  simp [standing, FaultEventAssertion.create, verdict]

/- The fault event assertions in a reachable state. -/
theorem standings_of_started_run
    (hStarted : Started h factory scenario s)
    (hRun :
      run (occur fromSeconds h) s occurrences = some t) :
    t.runner.faultEventAssertions.map standing =
      (scenario.assertions.filter fun config =>
        config.type = "fault_event").map fun config =>
          (config,
            (outputs (occur fromSeconds h) heard s
              occurrences).findSome? (judge config)) := by
  rw [standings_run hRun, standings_of_started hStarted,
    List.map_map]
  exact rfl

/- What is recorded in a reachable state was published. -/
theorem recordedEvents_of_started_run
    (hStarted : Started h factory scenario s)
    (hRun :
      run (occur fromSeconds h) s occurrences = some t) :
    t.controller.recordedEvents =
      t.controller.publishedEvents :=
  Eq.symm
    (FaultController.streamRecorded_of_run hStarted.controller
      (run_mono
        (fun _ _ _ hStep =>
          (FaultController.nodeStep_eq_some_iff.mp hStep).2)
        (run_controller hRun)))

/- What was heard and what is queued was recorded in order. -/
theorem heard_recorded
    (hStarted : Started h factory scenario s)
    (hRun :
      run (occur fromSeconds h) s occurrences = some t) :
    ((outputs (occur fromSeconds h) heard s
            occurrences).filterMap Heard.event? ++
          t.queuedEvents).Sublist
        t.controller.recordedEvents ∧
      (t.controller.NoEventLost →
        t.controller.recordedEvents =
          (outputs (occur fromSeconds h) heard s
              occurrences).filterMap Heard.event? ++
            t.queuedEvents) := by
  rcases deliveredEvents_of_started hStarted with
    ⟨hNone, hInOrder⟩
  have hDelivered := deliveredEvents_run hRun
  rw [hNone, List.nil_append] at hDelivered
  have hOrder : KeepLast.InOrder t.controller.subscription :=
    run_invariant
      (I := fun u : MonitoredController =>
        KeepLast.InOrder u.controller.subscription)
      (fun _ _ _ hHere _ hOccur => inOrder_occur hHere hOccur)
      hInOrder
      (along_of_forall (fun _ _ => True.intro) s occurrences)
      hRun
  rw [← hDelivered, recordedEvents_of_started_run hStarted hRun]
  unfold deliveredEvents queuedEvents
    FaultController.publishedEvents
  rw [← List.map_append]
  refine ⟨hOrder.map _, ?_⟩
  intro hIntact
  exact congrArg _ hIntact

end Runs

end MonitoredController

------------------------------------------------------------
-- An Activation That Is Seen
------------------------------------------------------------

namespace MonitoredController.SeenActivation

open FaultAssertionRunner Transition

/- An assertion about the fault that is active at startup. -/
def seen : AssertionConfig where
  id := "seen"
  type := "fault_event"
  faultId := "drop"
  state := "active"
  within := some .one

def scenario : ScenarioConfig :=
  { FaultController.WatchedRun.scenario with
    assertions := [seen] }

def started : MonitoredController where
  controller :=
    (FaultController.construct .insertion (fun _ => true) {} 0
      scenario).state
  runner := FaultAssertionRunner.start 0 scenario.assertions {}

/- The startup event is delivered, and later a manual one. -/
def occurrences : List Occurrence :=
  [ .eventDelivery fun _ => 0,
    .controller (.setFaultState ⟨"drop", false⟩),
    .runner
      (.update
        { now := 2000000000
          eventStamp := fun _ => 2000000000
          statusStamp := 2000000000 }),
    .eventDelivery fun _ => 2000000000 ]

theorem started_started :
    Started .insertion (fun _ => true) scenario started :=
  ⟨0, 0, by rfl, rfl⟩

end MonitoredController.SeenActivation
