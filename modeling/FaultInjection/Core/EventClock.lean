import Mathlib.Data.Int.ConditionallyCompleteOrder
import Mathlib.Order.Monotone.Defs
import FaultInjection.Core.AssertionReferences
import FaultInjection.Core.TimerLifetime

/-
  The two clocks of a start event.

  The scheduler counts a fault's start on the steady clock.
  The event is stamped, and the assertion runner judges it,
  on the node's clock, which need not go at the same rate.

  Key definitions include:
    * `FaultController.StartsOnTime`
    * `FaultController.StartsOnClock`
    * `FaultController.OnClock`
    * `MonitoredController.FollowsClock`

  Key theorems include:
    * `FaultController.OnClock.startsOnTime`
    * `FaultController.early_start`
    * `MonitoredController.starts_on_time_iff`
-/

------------------------------------------------------------
-- Start Timers
------------------------------------------------------------

namespace FaultScheduler

/- A start timer waits for the start of its own fault. -/
theorem start_of_mem_faultTimers
    {initiallyActiveFaults : List String}
    {key otherKey : String}
    {fault other : FaultConfig}
    {delay : Int}
    (hTimer :
      (Callback.startFault otherKey other, delay) ∈
        faultTimers initiallyActiveFaults key fault) :
    other = fault ∧ fault.start = some delay ∧
      isInitiallyActive fault initiallyActiveFaults =
        false := by
  unfold faultTimers at hTimer
  split at hTimer
  · cases hDuration : fault.duration with
    | none => simp [hDuration] at hTimer
    | some duration => simp [hDuration] at hTimer
  · rename_i hInactive
    cases hStart : fault.start with
    | none => simp [hStart] at hTimer
    | some start =>
        have hFirst :
            (Callback.startFault otherKey other, delay) =
              (Callback.startFault key fault, start) := by
          cases hDuration : fault.duration with
          | none => simpa [hStart, hDuration] using hTimer
          | some duration =>
              simpa [hStart, hDuration] using hTimer
        simp only [Prod.mk.injEq, Callback.startFault.injEq]
          at hFirst
        refine ⟨hFirst.1.2, ?_, by simpa using hInactive⟩
        rw [hFirst.2]

/- A fault with a start that waits for it has that timer. -/
theorem mem_faultTimers_of_start
    {initiallyActiveFaults : List String}
    {key : String}
    {fault : FaultConfig}
    {start : Int}
    (hStart : fault.start = some start)
    (hInactive :
      isInitiallyActive fault initiallyActiveFaults =
        false) :
    (Callback.startFault key fault, start) ∈
      faultTimers initiallyActiveFaults key fault := by
  unfold faultTimers
  simp [hStart, hInactive]

end FaultScheduler

------------------------------------------------------------
-- Punctual Starts
------------------------------------------------------------

namespace FaultController

open FaultScheduler FaultServiceManager Transition

/-
  The event that a start timer publishes has a stamp that is
  not before the start of the fault. Starts are counted in
  milliseconds from the start of the assertion runner.
-/
def StartsOnTime
    (h : HashOrder String)
    (startTime : Int)
    (c : FaultController)
    (a : Action) : Prop :=
  ∀ n e key fault start after,
    a = .callback n →
      c.node.ready n = some e →
        e.callback = .startFault key fault →
          fault.start = some start →
            c.step h a = some after →
              ∃ message,
                after.subscription.published =
                    c.subscription.published ++ [message] ∧
                  message.faultId = fault.id ∧
                    message.state = "active" ∧
                      startTime + start * 10 ^ 6 ≤
                        message.stamp

/-
  When the start timers of the scenario are due, which are
  created now, the node's clock shows the start or later. The
  clock is a function of the steady time.
-/
def StartsOnClock
    (clock : Int → Int)
    (startTime : Int)
    (c : FaultController)
    (scenario : ScenarioConfig) : Prop :=
  ∀ fault ∈ scenario.faults,
    (c.injector? fault.injectorId).isSome = true →
      isInitiallyActive fault
          scenario.initiallyActiveFaults = false →
        ∀ start, fault.start = some start →
          startTime + start * 10 ^ 6 ≤
            clock
              (c.node.steadyNow + max start 1 * 10 ^ 6)

/- A start timer is due when the clock shows the start. -/
def LateTimer
    (clock : Int → Int)
    (startTime : Int)
    (e : CallbackEntity Callback) : Prop :=
  ∀ key fault start,
    e.callback = .startFault key fault →
      fault.start = some start →
        ∃ time, e.dueAt = some time ∧
          startTime + start * 10 ^ 6 ≤ clock time

/-
  The node shows the clock, and no start timer is due before
  the clock shows the start.
-/
structure OnClock
    (clock : Int → Int)
    (startTime : Int)
    (c : FaultController) : Prop where
  shows : c.node.rosNow = clock c.node.steadyNow
  timers :
    ∀ e ∈ c.node.entities, LateTimer clock startTime e

section OnClock

variable {h : HashOrder String}
variable {clock : Int → Int}
variable {startTime : Int}
variable {c after : FaultController}
variable {a : Action}

theorem OnClock.of_node_eq
    (hOn : OnClock clock startTime c)
    (hNode : after.node = c.node) :
    OnClock clock startTime after := by
  constructor
  · rw [hNode]
    exact hOn.shows
  · rw [hNode]
    exact hOn.timers

theorem OnClock.createMember
    (hOn : OnClock clock startTime c)
    (m : Member) :
    OnClock clock startTime (c.createMember m) := by
  refine ⟨hOn.shows, ?_⟩
  intro e hEntity
  rcases List.mem_append.mp hEntity with hOld | hNew
  · exact hOn.timers e hOld
  · intro key fault start hCallback
    rw [List.mem_singleton.mp hNew] at hCallback
    cases hCallback

/- Without such a timer only the clock has to be right. -/
theorem OnlyMembers.onClock
    (hMembers : c.OnlyMembers)
    (hShows : c.node.rosNow = clock c.node.steadyNow) :
    OnClock clock startTime c := by
  refine ⟨hShows, ?_⟩
  intro e hEntity key fault start hCallback
  rcases hMembers e hEntity with ⟨m, hMember⟩
  rw [hMember] at hCallback
  cases hCallback

/- Scheduling takes no time. -/
theorem clocks_scheduleFaults :
    (scheduleFaults h c).state.node.steadyNow =
        c.node.steadyNow ∧
      (scheduleFaults h c).state.node.rosNow =
        c.node.rosNow := by
  apply scheduleFaults_state
    (P := fun s =>
      s.node.steadyNow = c.node.steadyNow ∧
        s.node.rosNow = c.node.rosNow)
  · exact fun _ _ _ _ _ hState => hState
  · exact fun _ _ _ _ _ _ _ _ hState => hState
  · exact ⟨rfl, rfl⟩

/- Scheduling creates late timers if the clock allows it. -/
theorem OnClock.schedule
    (hOn : OnClock clock startTime c)
    (hStarts :
      StartsOnClock clock startTime c c.scenario) :
    OnClock clock startTime (scheduleFaults h c).state := by
  have hBoth :
      OnClock clock startTime (scheduleFaults h c).state ∧
        (scheduleFaults h c).state.node.steadyNow =
          c.node.steadyNow := by
    apply scheduleFaults_state
      (P := fun s =>
        OnClock clock startTime s ∧
          s.node.steadyNow = c.node.steadyNow)
    · intro key fault s _ _ hState
      exact ⟨hState.1.of_node_eq rfl, hState.2⟩
    · intro key fault callback delay s hItem hTimer _ hState
      refine ⟨⟨hState.1.shows, ?_⟩, hState.2⟩
      intro e hEntity
      rcases List.mem_append.mp hEntity with hOld | hNew
      · exact hState.1.timers e hOld
      · rw [List.mem_singleton.mp hNew]
        intro otherKey other start hCallback hStart
        rcases (mem_workList_iff h c key fault).mp hItem with
          ⟨hFault, hKey, hRuns⟩
        change callback = _ at hCallback
        rw [hCallback] at hTimer
        rcases start_of_mem_faultTimers hTimer with
          ⟨hOther, hDelay, hInactive⟩
        rw [hOther, hDelay, Option.some.injEq] at hStart
        subst hStart
        refine ⟨_, rfl, ?_⟩
        rw [hState.2]
        apply hStarts fault hFault ?_ hInactive delay hDelay
        rw [hKey]
        exact Option.isSome_iff_exists.mpr hRuns
    · exact ⟨hOn, rfl⟩
  exact hBoth.1

theorem OnClock.cancel
    (hOn : OnClock clock startTime c)
    (n : Nat)
    (hNode : after.node = c.node.cancel n) :
    OnClock clock startTime after := by
  constructor
  · rw [hNode]
    exact hOn.shows
  · rw [hNode]
    intro e hEntity
    rcases CallbackNode.mem_cancel_entities hEntity with
      ⟨old, hOld, hKept | hCancelled⟩
    · rw [hKept]
      exact hOn.timers old hOld
    · rw [hCancelled]
      exact hOn.timers old hOld

/- On the clock no start timer publishes too early. -/
theorem OnClock.startsOnTime
    (hMonotone : Monotone clock)
    (hOn : OnClock clock startTime c) :
    StartsOnTime h startTime c a := by
  intro n e key fault start after hAction hReady hCallback
    hStart hStep
  subst hAction
  rcases CallbackNode.ready_eq_some_iff.mp hReady with
    ⟨hEntity, _, hDue, _⟩
  rcases fire_eq_some_iff.mp hStep with
    ⟨other, hOther, hRun⟩
  rw [hReady, Option.some.injEq] at hOther
  subst hOther
  rw [hCallback] at hRun
  subst hRun
  refine ⟨_, rfl, rfl, rfl, ?_⟩
  rcases hOn.timers e (List.mem_of_getElem? hEntity) key fault
      start hCallback hStart with
    ⟨time, hTime, hLate⟩
  unfold CallbackEntity.due at hDue
  rw [hTime, Option.all_some, decide_eq_true_iff] at hDue
  calc
    startTime + start * 10 ^ 6 ≤ clock time := hLate
    _ ≤ clock c.node.steadyNow := hMonotone hDue
    _ = c.node.rosNow := hOn.shows.symm

/- An accepted reload schedules its own start timers. -/
theorem OnClock.applyReload
    {newScenario : ScenarioConfig}
    (hOn : OnClock clock startTime c)
    (hStarts :
      StartsOnClock clock startTime c newScenario) :
    OnClock clock startTime
      (applyReload h newScenario c).state := by
  let registered :=
    registerFaults (clearScenario newScenario c)
  have hNode :
      registered.node = c.node.release .scheduler :=
    registerFaults_node _
  have hRegistered : OnClock clock startTime registered := by
    constructor
    · rw [hNode]
      exact hOn.shows
    · rw [hNode]
      exact hOn.timers
  apply hRegistered.schedule
  have hScenario : registered.scenario = newScenario :=
    registerFaults_scenario _
  rw [hScenario]
  intro fault hFault hRuns hInactive start hStart
  rw [hNode]
  apply hStarts fault hFault ?_ hInactive start hStart
  rw [← injector?_clearScenario_isSome newScenario,
    ← injector?_registerFaults_isSome]
  exact hRuns

/-
  Every step keeps the timers on the clock if time follows
  the clock and an accepted reload is on it.
-/
theorem OnClock.step
    (hOn : OnClock clock startTime c)
    (hFollows :
      ∀ elapsed rosNow, a = .advance elapsed rosNow →
        rosNow = clock (c.node.steadyNow + elapsed))
    (hReload :
      ∀ content newScenario, a = .reloadScenario content →
        c.checkReload h content = .ok newScenario →
          StartsOnClock clock startTime c newScenario)
    (hStep : c.step h a = some after) :
    OnClock clock startTime after := by
  refine step_keeps ?_ ?_ ?_ ?_ ?_ ?_ ?_ hOn hStep
  · intro elapsed rosNow hAdvance
    exact ⟨hFollows elapsed rosNow hAdvance, hOn.timers⟩
  · intro n e key fault _ _ _
    exact hOn.cancel n rfl
  · intro n e key fault _ _ _
    exact hOn.cancel n rfl
  · intro request target _ _
    exact hOn.of_node_eq rfl
  · intro request target field updated _ _ _ _ _
    exact hOn.of_node_eq rfl
  · intro content newScenario hAction hCheck
    exact hOn.applyReload
      (hReload content newScenario hAction hCheck)
  · intro subscription _ _
    exact hOn.of_node_eq rfl

variable {factory : InjectorConfig → Bool}
variable {scenario : ScenarioConfig}

theorem clocks_of_scheduled
    {registered t : FaultController}
    (hSchedule : scheduleFaults h registered = .done t)
    (hEnd : c = t.createMember .outputConflictTimer) :
    c.node.steadyNow = registered.node.steadyNow ∧
      c.node.rosNow = registered.node.rosNow := by
  have hClocks :=
    clocks_scheduleFaults (h := h) (c := registered)
  rw [hSchedule] at hClocks
  rw [hEnd]
  exact hClocks

/- A constructed controller whose starts are on the clock. -/
theorem onClock_of_started
    (hStarted : Started h factory scenario c)
    (hShows : c.node.rosNow = clock c.node.steadyNow)
    (hStarts : StartsOnClock clock startTime c scenario) :
    OnClock clock startTime c := by
  rcases scheduled_of_started hStarted with
    ⟨registered, t, hSetUp, hSchedule, hEnd⟩
  rcases clocks_of_scheduled hSchedule hEnd with
    ⟨hSteady, hRos⟩
  have hRegistered : OnClock clock startTime registered := by
    apply hSetUp.members.onClock
    rw [← hSteady, ← hRos]
    exact hShows
  have hScheduled :
      OnClock clock startTime
        (scheduleFaults h registered).state := by
    apply hRegistered.schedule
    rw [hSetUp.loaded]
    intro fault hFault hRuns hInactive start hStart
    rw [← hSteady]
    apply hStarts fault hFault ?_ hInactive start hStart
    have hSame := sameFaults_of_scheduled hSchedule hEnd
    rw [hSame.isSome]
    exact hRuns
  rw [hSchedule] at hScheduled
  rw [hEnd]
  exact OnClock.createMember hScheduled _

/- A fault that waits for its start has a timer for it. -/
theorem startTimer_of_started
    (hStarted : Started h factory scenario c)
    {fault : FaultConfig}
    (hFault : fault ∈ scenario.faults)
    (hRuns : (c.injector? fault.injectorId).isSome = true)
    (hInactive :
      isInitiallyActive fault
          scenario.initiallyActiveFaults =
        false)
    {start : Int}
    (hStart : fault.start = some start) :
    ∃ (n : Nat) (e : CallbackEntity Callback),
      c.node.entities[n]? = some e ∧
        e.callback = .startFault fault.injectorId fault ∧
          e.cancelled = false ∧
            e.dueAt =
              some
                (c.node.steadyNow +
                  max start 1 * 10 ^ 6) := by
  rcases scheduled_of_started hStarted with
    ⟨registered, t, hSetUp, hSchedule, hEnd⟩
  have hSame := sameFaults_of_scheduled hSchedule hEnd
  have hItem :
      (fault.injectorId, fault) ∈ registered.workList h := by
    rw [mem_workList_iff, hSetUp.loaded]
    refine ⟨hFault, rfl, Option.isSome_iff_exists.mp ?_⟩
    rw [← hSame.isSome]
    exact hRuns
  have hTimers := (scheduleFaults_done hSchedule hItem).2
  rw [hSetUp.loaded] at hTimers
  rcases
    hTimers _ (mem_faultTimers_of_start hStart hInactive) with
    ⟨n, _, e, hEntity, hCallback, hPeriod, hCreated,
      hPending, _⟩
  refine ⟨n, e, ?_, hCallback, hPending, ?_⟩
  · rw [hEnd]
    change (t.node.entities ++ _)[n]? = some e
    rw [List.getElem?_append_left
      (List.getElem?_eq_some_iff.mp hEntity).1]
    exact hEntity
  · unfold CallbackEntity.dueAt
    rw [hPeriod, hCreated, hEnd]
    rfl

/-
  A start timer that is due before the clock shows the start
  can run at once, and its event is then too early.
-/
theorem early_start
    (hStarted : Started h factory scenario c)
    {fault : FaultConfig}
    (hFault : fault ∈ scenario.faults)
    (hRuns : (c.injector? fault.injectorId).isSome = true)
    (hInactive :
      isInitiallyActive fault
          scenario.initiallyActiveFaults =
        false)
    {start rosNow : Int}
    (hStart : fault.start = some start)
    (hEarly : rosNow < startTime + start * 10 ^ 6) :
    ∃ elapsed n : Nat,
      (elapsed : Int) = max start 1 * 10 ^ 6 ∧
        ∃ m, c.step h (.advance elapsed rosNow) = some m ∧
          ¬ StartsOnTime h startTime m (.callback n) := by
  rcases startTimer_of_started hStarted hFault hRuns hInactive
      hStart with
    ⟨n, e, hEntity, hCallback, hPending, hDueAt⟩
  let elapsed : Nat := (max start 1 * 10 ^ 6).toNat
  have hElapsed :
      (elapsed : Int) = max start 1 * 10 ^ 6 := by
    have hPositive : 1 ≤ max start 1 := Int.le_max_right _ _
    unfold elapsed
    omega
  let m : FaultController :=
    { c with node := c.node.advance elapsed rosNow }
  have hStep :
      c.step h (.advance elapsed rosNow) = some m := rfl
  have hPersist : m.TimersPersist :=
    (timersPersist_of_started hStarted).step hStep
  have hDue : e.due m.node.steadyNow = true := by
    unfold CallbackEntity.due
    rw [hDueAt, Option.all_some, decide_eq_true_iff,
      ← hElapsed]
    exact Int.le_refl _
  have hReady : m.node.ready n = some e :=
    ready_of_pending hPersist hEntity (by rw [hCallback]; rfl)
      hPending hDue
  refine ⟨elapsed, n, hElapsed, m, hStep, ?_⟩
  intro hOnTime
  have hFire :
      m.step h (.callback n) =
        some (runStart n fault.injectorId fault m) := by
    rw [step, fire_eq_some_iff]
    exact ⟨e, hReady, by rw [hCallback]; rfl⟩
  rcases hOnTime n e fault.injectorId fault start _ rfl hReady
      hCallback hStart hFire with
    ⟨message, hPublished, _, _, hLate⟩
  have hMessage := List.append_cancel_left hPublished
  rw [List.cons.injEq] at hMessage
  rw [← hMessage.1] at hLate
  exact absurd hLate (Int.not_le.mpr hEarly)

end OnClock

end FaultController

------------------------------------------------------------
-- Runs On A Clock
------------------------------------------------------------

namespace MonitoredController

open Transition
open FaultController (OnClock StartsOnClock StartsOnTime)

/- When time passes the node shows the clock again. -/
def FollowsClock
    (clock : Int → Int)
    (s : MonitoredController) : Action → Prop
| .controller (.advance elapsed rosNow) =>
    rosNow = clock (s.controller.node.steadyNow + elapsed)
| _ => True

/- The starts of a scenario that is reloaded are on the clock. -/
def ReloadStartsOnClock
    (clock : Int → Int)
    (h : HashOrder String)
    (s : MonitoredController) : Action → Prop
| .controller (.reloadScenario content) =>
    ∀ newScenario,
      content = .ok newScenario →
        (validateScenario h newScenario).ok = true →
          (s.controller.validateReloadCompatible
              newScenario).success =
            true →
            StartsOnClock clock s.runner.startTime
              s.controller newScenario
| _ => True

/- What a start timer publishes now is not too early. -/
def PublishesOnTime
    (h : HashOrder String)
    (s : MonitoredController) : Action → Prop
| .controller a =>
    StartsOnTime h s.runner.startTime s.controller a
| .runner _ => True

section Clock

variable {h : HashOrder String}
variable {fromSeconds : Number → Int}
variable {clock : Int → Int}
variable {factory : InjectorConfig → Bool}
variable {scenario : ScenarioConfig}
variable {s : MonitoredController}

theorem onClock_step
    (s : MonitoredController)
    (a : Action)
    (t : MonitoredController)
    (hOn : OnClock clock s.runner.startTime s.controller)
    (hPermitted :
      FollowsClock clock s a ∧ ReloadStartsOnClock clock h s a)
    (hStep : step fromSeconds h s a = some t) :
    OnClock clock t.runner.startTime t.controller := by
  cases a with
  | runner call =>
      rcases Option.map_eq_some_iff.mp hStep with
        ⟨runner, hCall, hEnd⟩
      subst hEnd
      have hTime := FaultAssertionRunner.startTime_step hCall
      rw [hTime]
      exact hOn
  | controller a =>
      rcases Option.map_eq_some_iff.mp hStep with
        ⟨controller, hAction, hEnd⟩
      subst hEnd
      refine hOn.step ?_ ?_ hAction
      · intro elapsed rosNow hAdvance
        subst hAdvance
        exact hPermitted.1
      · intro content newScenario hReload hCheck
        subst hReload
        rcases FaultController.checkReload_eq_ok_iff.mp
            hCheck with
          ⟨hContent, hOk, hCompatible⟩
        exact hPermitted.2 newScenario hContent hOk
          hCompatible

/-
  Whatever nondecreasing clock the node shows: every start
  event of every run, in which reloaded scenarios have their
  starts on the clock, is stamped in time exactly if the
  starts of the first scenario are on the clock.
-/
theorem starts_on_time_iff
    (hMonotone : Monotone clock)
    (hStarted : Started h factory scenario s)
    (hShows :
      s.controller.node.rosNow =
        clock s.controller.node.steadyNow) :
    (∀ actions,
        Along (step fromSeconds h)
            (fun s a =>
              FollowsClock clock s a ∧
                ReloadStartsOnClock clock h s a)
            s actions →
          Along (step fromSeconds h) (PublishesOnTime h) s
            actions) ↔
      StartsOnClock clock s.runner.startTime s.controller
        scenario := by
  rcases hStarted with
    ⟨steadyNow, rosNow, hConstruct, hRunner⟩
  have hStartedController :
      FaultController.Started h factory scenario
        s.controller :=
    ⟨steadyNow, rosNow, hConstruct⟩
  constructor
  · intro hAll fault hFault hRuns hInactive start hStart
    by_contra hNot
    rcases FaultController.early_start hStartedController
        hFault hRuns hInactive hStart (Int.not_le.mp hNot) with
      ⟨elapsed, n, hElapsed, m, hStep, hEarly⟩
    have hTaken :
        step fromSeconds h s
            (.controller
              (.advance elapsed
                (clock
                  (s.controller.node.steadyNow +
                    max start 1 * 10 ^ 6)))) =
          some { s with controller := m } :=
      step_controller hStep
    have hRun :=
      hAll
        [ .controller
            (.advance elapsed
              (clock
                (s.controller.node.steadyNow +
                  max start 1 * 10 ^ 6))),
          .controller (.callback n) ]
        ⟨⟨by rw [FollowsClock, hElapsed], True.intro⟩,
          fun t _ => ⟨⟨True.intro, True.intro⟩,
            fun _ _ => True.intro⟩⟩
    exact hEarly (hRun.2 _ hTaken).1
  · intro hStarts actions hAlong
    refine along_of_invariant
      (I := fun t =>
        OnClock clock t.runner.startTime t.controller)
      onClock_step ?_ ?_ hAlong
    · intro t a hOn _
      cases a with
      | runner call => exact True.intro
      | controller a => exact hOn.startsOnTime hMonotone
    · exact FaultController.onClock_of_started
        hStartedController hShows hStarts

end Clock

end MonitoredController

------------------------------------------------------------
-- A Paused Clock
------------------------------------------------------------

namespace MonitoredController.PausedClock

open Transition
open FaultController (StartsOnClock)

/- A fault that starts after a second. -/
def fault : FaultConfig where
  id := "bias"
  injectorId := "base"
  start := some 1000

def scenario : ScenarioConfig where
  injectors :=
    [{ id := "base", type := "odom",
       topic := some
        { inputTopic := "odom"
          outputTopic := "odom_faulty" } }]
  faults := [fault]

def started : MonitoredController where
  controller :=
    (FaultController.construct .insertion (fun _ => true) {} 0
      scenario).state
  runner :=
    FaultAssertionRunner.start 0 scenario.assertions {}

theorem started_started :
    Started .insertion (fun _ => true) scenario started :=
  ⟨0, 0, by rfl, rfl⟩

/-
  With a clock that stands still the event of the start at
  one second is stamped with time zero.
-/
theorem starts_too_early :
    ¬ ∀ (clock : Int → Int)
        (scenario : ScenarioConfig)
        (s : MonitoredController)
        (actions : List Action),
      Monotone clock →
        (validateScenario .insertion scenario).ok = true →
          Started .insertion (fun _ => true) scenario s →
            s.controller.node.rosNow =
                clock s.controller.node.steadyNow →
              Along (step (fun _ => 0) .insertion)
                  (FollowsClock clock) s actions →
                Along (step (fun _ => 0) .insertion)
                  (PublishesOnTime .insertion) s actions := by
  intro hAll
  have hStarted :
      FaultController.Started .insertion (fun _ => true)
        scenario started.controller :=
    ⟨0, 0, by rfl⟩
  have hStart : fault.start = some 1000 := rfl
  have hEarlier : (0 : Int) < 0 + 1000 * 10 ^ 6 := by decide
  rcases FaultController.early_start hStarted
      (List.mem_singleton_self fault) (by decide) (by decide)
      hStart hEarlier with
    ⟨elapsed, n, _, m, hStep, hEarly⟩
  have hRun :=
    hAll (fun _ => 0) scenario started
      [ .controller (.advance elapsed 0),
        .controller (.callback n) ]
      (fun _ _ _ => Int.le_refl 0) (by decide)
      started_started (by rfl)
      ⟨rfl, fun _ _ => ⟨True.intro, fun _ _ => True.intro⟩⟩
  have hTaken :
      step (fun _ => 0) .insertion started
          (.controller (.advance elapsed 0)) =
        some { started with controller := m } :=
    step_controller hStep
  exact hEarly (hRun.2 _ hTaken).1

/- On one clock the start is stamped in time. -/
theorem starts_on_time_on_steady_clock :
    Along (step (fun _ => 0) .insertion)
      (PublishesOnTime .insertion) started
      [ .controller (.advance 1000000000 1000000000),
        .controller (.callback 3) ] := by
  have hOnClock :
      StartsOnClock id started.runner.startTime
        started.controller scenario := by
    intro fault hFault _ _ start hStart
    rw [scenario, List.mem_singleton] at hFault
    subst hFault
    rw [fault, Option.some.injEq] at hStart
    subst hStart
    decide
  apply
    (starts_on_time_iff monotone_id started_started
      (by rfl)).mpr hOnClock
  refine ⟨⟨by rfl, True.intro⟩, fun _ _ => ⟨?_, ?_⟩⟩
  · exact ⟨True.intro, True.intro⟩
  · exact fun _ _ => True.intro

end MonitoredController.PausedClock
