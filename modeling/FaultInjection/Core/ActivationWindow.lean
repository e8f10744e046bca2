import FaultInjection.Core.FaultWindow
import FaultInjection.Core.EventClock
import FaultInjection.Core.EventDetails
import FaultInjection.Core.ControlServices

/-
  When a fault is active.

  A fault that no request switches is active from the time its
  scenario gives for it to start, and until the time it gives
  for it to stop, as long as the executor has run the timers
  that are due.

  Key definitions include:
    * `FaultController.opensAt`
    * `FaultController.closesAt`
    * `FaultController.LeavesSchedule`
    * `FaultController.Idle`

  Key theorems include:
    * `FaultController.timers_of_started`
    * `FaultController.Window.step`
    * `FaultController.active_in_window`
-/

------------------------------------------------------------
-- Windows
------------------------------------------------------------

namespace FaultController

open FaultScheduler FaultServiceManager Transition

section Times

variable (loadedAt : Int)
variable (scenario : ScenarioConfig)
variable (fault : FaultConfig)

/-
  The steady time from which a fault is active, when its
  scenario is loaded at a given time.
-/
def opensAt : Option Int :=
  if isInitiallyActive fault scenario.initiallyActiveFaults then
    some loadedAt
  else
    fault.start.map fun start =>
      loadedAt + max start 1 * 10 ^ 6

/- The steady time until which it is active. -/
def closesAt : Option Int :=
  if isInitiallyActive fault scenario.initiallyActiveFaults then
    fault.duration.map fun duration =>
      loadedAt + max duration 1 * 10 ^ 6
  else
    fault.start.bind fun start =>
      fault.duration.map fun duration =>
        loadedAt + max (addMilliseconds start duration) 1 * 10 ^ 6

variable {loadedAt scenario fault}
variable {key otherKey : String}
variable {other : FaultConfig}
variable {delay : Int}

theorem opensAt_of_mem_faultTimers
    (hTimer :
      (Callback.startFault otherKey other, delay) ∈
        faultTimers scenario.initiallyActiveFaults key fault) :
    opensAt loadedAt scenario fault =
      some (loadedAt + max delay 1 * 10 ^ 6) := by
  rcases start_of_mem_faultTimers hTimer with
    ⟨_, hStart, hInactive⟩
  unfold opensAt
  rw [if_neg (by simp [hInactive]), hStart]
  rfl

theorem closesAt_of_mem_faultTimers
    (hTimer :
      (Callback.stopFault otherKey other, delay) ∈
        faultTimers scenario.initiallyActiveFaults key fault) :
    closesAt loadedAt scenario fault =
      some (loadedAt + max delay 1 * 10 ^ 6) := by
  unfold faultTimers at hTimer
  unfold closesAt
  split at hTimer
  · rename_i hActive
    rw [if_pos hActive]
    cases hDuration : fault.duration with
    | none => simp [hDuration] at hTimer
    | some duration =>
        simp only [hDuration, List.mem_singleton,
          Prod.mk.injEq] at hTimer
        rw [hTimer.2]
        rfl
  · rename_i hInactive
    rw [if_neg hInactive]
    cases hStart : fault.start with
    | none => simp [hStart] at hTimer
    | some start =>
        cases hDuration : fault.duration with
        | none => simp [hStart, hDuration] at hTimer
        | some duration =>
            simp only [hStart, hDuration, List.mem_cons,
              Prod.mk.injEq, reduceCtorEq, false_and,
              List.not_mem_nil, or_false, false_or] at hTimer
            rw [hTimer.2]
            rfl

end Times

/- No request switches the fault and no reload is accepted. -/
def LeavesSchedule
    (h : HashOrder String)
    (fault : FaultConfig)
    (c : FaultController) : Action → Prop
| .setFaultState request => request.faultId ≠ fault.id
| .reloadScenario content =>
    ∀ newScenario, c.checkReload h content ≠ .ok newScenario
| _ => True

/- Every timer of the scheduler that is due has run. -/
def Idle (c : FaultController) : Prop :=
  ∀ n e, c.node.ready n = some e →
    e.callback.isScheduled = false

/- Only entities that exist can be due. -/
theorem idle_iff
    (c : FaultController) :
    c.Idle ↔
      ∀ n < c.node.entities.length,
        (c.node.ready n).all
            (fun e => ¬ e.callback.isScheduled) =
          true := by
  simp only [Idle, Option.all_eq_true, decide_eq_true_iff,
    Bool.not_eq_true]
  constructor
  · exact fun hIdle n _ e hReady => hIdle n e hReady
  · intro hAll n e hReady
    have hEntity := (CallbackNode.ready_eq_some_iff.mp hReady).1
    exact
      hAll n (List.getElem?_eq_some_iff.mp hEntity).1 e hReady

instance (c : FaultController) : Decidable c.Idle :=
  decidable_of_iff _ (idle_iff c).symm

------------------------------------------------------------
-- Timers Of A Started Controller
------------------------------------------------------------

section Started

variable {h : HashOrder String}
variable {factory : InjectorConfig → Bool}
variable {scenario : ScenarioConfig}
variable {c : FaultController}

/- A timer that waits for a fault of the scenario. -/
def TimerOf
    (scenario : ScenarioConfig)
    (loadedAt : Int)
    (e : CallbackEntity Callback) : Prop :=
  ∃ fault ∈ scenario.faults, ∃ delay,
    (e.callback, delay) ∈
        faultTimers scenario.initiallyActiveFaults
          fault.injectorId fault ∧
      e.dueAt = some (loadedAt + max delay 1 * 10 ^ 6) ∧
        e.cancelled = false

theorem timers_of_started
    (hStarted : Started h factory scenario c) :
    ∀ e ∈ c.node.entities, e.callback.isScheduled = true →
      TimerOf scenario c.node.steadyNow e := by
  refine started_state
    (P := fun s =>
      ∀ e ∈ s.node.entities, e.callback.isScheduled = true →
        TimerOf scenario s.node.steadyNow e)
    ?_ ?_ ?_ ?_ ?_ ?_ hStarted
  · intro m s hState e hEntity hScheduled
    rcases List.mem_append.mp hEntity with hOld | hNew
    · exact hState e hOld hScheduled
    · rw [List.mem_singleton.mp hNew] at hScheduled
      cases hScheduled
  · exact fun _ _ _ hState => hState
  · exact fun _ _ _ hState => hState
  · exact fun _ _ _ _ hState => hState
  · intro fault hFault callback delay hTimer _ s hState e
      hEntity hScheduled
    rcases List.mem_append.mp hEntity with hOld | hNew
    · exact hState e hOld hScheduled
    · rw [List.mem_singleton.mp hNew]
      exact ⟨fault, hFault, delay, hTimer, rfl, rfl⟩
  · intro _ _ e hEntity
    cases hEntity

/- A fault is active at startup if it is listed as such. -/
theorem isActive_of_started
    (hStarted : Started h factory scenario c)
    {fault : FaultConfig}
    (hFault : fault ∈ scenario.faults)
    (hRuns : (c.injector? fault.injectorId).isSome = true) :
    c.isActive fault.injectorId fault.id =
      isInitiallyActive fault scenario.initiallyActiveFaults := by
  rcases hStarted with ⟨steadyNow, rosNow, hConstruct⟩
  let created :=
    createInjectors factory
      (startAssertionRunner
        { node := { steadyNow := steadyNow, rosNow := rosNow }
          scenario := scenario
          generation := 0 })
  have hLoaded : created.scenario = scenario :=
    setUp_scenario factory _
  unfold construct at hConstruct
  rcases Outcome.bind_eq_done_iff.mp hConstruct with
    ⟨t, hSchedule, hEnd⟩
  rw [Outcome.done.injEq] at hEnd
  have hSame : SameFaults c (registerFaults created) :=
    sameFaults_of_scheduled hSchedule hEnd.symm
  have hCreated :
      (created.injector? fault.injectorId).isSome = true := by
    rw [← injector?_registerFaults_isSome, ← hSame.isSome]
    exact hRuns
  have hFlag :=
    isActive_scheduleRegistered_iff
      (noFaults_setUp fun _ _ => rfl)
      (noFlags_setUp fun _ _ => rfl) hSchedule
      (hLoaded.symm ▸ hFault) hCreated
  rw [hLoaded] at hFlag
  rw [Bool.eq_iff_iff, ← hEnd, isInitiallyActive,
    decide_eq_true_iff]
  exact hFlag

end Started

------------------------------------------------------------
-- What A Run Keeps
------------------------------------------------------------

/- What each entity runs and when it is due. -/
def timerTable
    (c : FaultController) : List (Callback × Option Int) :=
  c.node.entities.map fun e => (e.callback, e.dueAt)

/- The fault was activated at startup or by its timer. -/
def Opened
    (scenario : ScenarioConfig)
    (fault : FaultConfig)
    (c : FaultController) : Prop :=
  isInitiallyActive fault scenario.initiallyActiveFaults =
      true ∨
    c.HasRun (.startFault fault.injectorId fault)

/-
  The timers are those of the scenario, those that have run
  were due, and the flag of the fault follows them.
-/
structure Window
    (scenario : ScenarioConfig)
    (loadedAt : Int)
    (fault : FaultConfig)
    (c : FaultController) : Prop where
  clock : loadedAt ≤ c.node.steadyNow
  persist : c.TimersPersist
  registered : c.hasFault fault.injectorId fault.id = true
  timers :
    ∀ entry ∈ c.timerTable, entry.1.isScheduled = true →
      ∃ listed ∈ scenario.faults, ∃ delay,
        (entry.1, delay) ∈
            faultTimers scenario.initiallyActiveFaults
              listed.injectorId listed ∧
          entry.2 = some (loadedAt + max delay 1 * 10 ^ 6)
  waits :
    isInitiallyActive fault scenario.initiallyActiveFaults =
        false →
      fault.start ≠ none →
        ∃ entry ∈ c.timerTable,
          entry.1 = .startFault fault.injectorId fault
  ran :
    ∀ e ∈ c.node.entities, e.cancelled = true →
      e.due c.node.steadyNow = true
  opened :
    c.isActive fault.injectorId fault.id = true →
      Opened scenario fault c
  stays :
    Opened scenario fault c →
      ¬ c.HasRun (.stopFault fault.injectorId fault) →
        c.isActive fault.injectorId fault.id = true

section Window

variable {h : HashOrder String}
variable {scenario : ScenarioConfig}
variable {loadedAt : Int}
variable {fault : FaultConfig}
variable {c after : FaultController}

theorem timerTable_cancel
    {n : Nat}
    (hNode : after.node = c.node.cancel n) :
    after.timerTable = c.timerTable := by
  unfold timerTable
  rw [hNode]
  apply List.ext_getElem?
  intro m
  rw [List.getElem?_map, List.getElem?_map,
    CallbackNode.cancel_entities, Option.map_map]
  congr 1
  funext e
  simp only [Function.comp_apply]
  split
  · rfl
  · rfl

/- No time passes, and no timer, fault or flag changes. -/
theorem Window.of_same
    (hWindow : Window scenario loadedAt fault c)
    (hNode : after.node = c.node)
    (hPersist : after.TimersPersist)
    (hHas :
      after.hasFault fault.injectorId fault.id =
        c.hasFault fault.injectorId fault.id)
    (hFlag :
      after.isActive fault.injectorId fault.id =
        c.isActive fault.injectorId fault.id) :
    Window scenario loadedAt fault after := by
  have hRun :
      ∀ callback, after.HasRun callback ↔ c.HasRun callback :=
    fun _ => hasRun_of_entities_eq (by rw [hNode])
  have hTable : after.timerTable = c.timerTable := by
    unfold timerTable
    rw [hNode]
  refine
    ⟨by rw [hNode]; exact hWindow.clock, hPersist,
      hHas.trans hWindow.registered,
      hTable ▸ hWindow.timers, hTable ▸ hWindow.waits,
      by rw [hNode]; exact hWindow.ran, ?_, ?_⟩
  · rw [hFlag, Opened, hRun]
    exact hWindow.opened
  · rw [hFlag, Opened, hRun, hRun]
    exact hWindow.stays

/- Time passes. -/
theorem Window.advance
    (hWindow : Window scenario loadedAt fault c)
    (elapsed : Nat)
    (rosNow : Int) :
    Window scenario loadedAt fault
      { c with node := c.node.advance elapsed rosNow } where
  clock := by
    have hBefore := hWindow.clock
    change loadedAt ≤ c.node.steadyNow + elapsed
    omega
  persist := hWindow.persist
  registered := hWindow.registered
  timers := hWindow.timers
  waits := hWindow.waits
  ran := by
    intro e hEntity hCancelled
    have hBefore := hWindow.ran e hEntity hCancelled
    unfold CallbackEntity.due at hBefore ⊢
    rw [Option.all_eq_true] at hBefore ⊢
    intro time hTime
    have hDue := hBefore time hTime
    rw [decide_eq_true_iff] at hDue ⊢
    change time ≤ c.node.steadyNow + elapsed
    omega
  opened := hWindow.opened
  stays := hWindow.stays

/- A timer that is due runs. -/
theorem Window.runTimer
    {n : Nat}
    {e : CallbackEntity Callback}
    (hWindow : Window scenario loadedAt fault c)
    (hReady : c.node.ready n = some e)
    (hNode : after.node = c.node.cancel n)
    (hPersist : after.TimersPersist)
    (hHas :
      after.hasFault fault.injectorId fault.id =
        c.hasFault fault.injectorId fault.id)
    (hOpened :
      after.isActive fault.injectorId fault.id = true →
        Opened scenario fault c ∨
          e.callback = .startFault fault.injectorId fault)
    (hStays :
      Opened scenario fault c ∨
          e.callback = .startFault fault.injectorId fault →
        ¬ (c.HasRun (.stopFault fault.injectorId fault) ∨
            e.callback = .stopFault fault.injectorId fault) →
          after.isActive fault.injectorId fault.id = true) :
    Window scenario loadedAt fault after := by
  rcases CallbackNode.ready_eq_some_iff.mp hReady with
    ⟨hEntity, _, hDue, _⟩
  have hTable := timerTable_cancel hNode
  have hRun :
      ∀ callback,
        after.HasRun callback ↔
          c.HasRun callback ∨ e.callback = callback :=
    fun _ => hasRun_cancel_iff hEntity hNode
  refine
    ⟨by rw [hNode]; exact hWindow.clock, hPersist,
      hHas.trans hWindow.registered,
      hTable ▸ hWindow.timers, hTable ▸ hWindow.waits,
      ?_, ?_, ?_⟩
  · intro other hOther hCancelled
    rw [hNode] at hOther ⊢
    rcases List.mem_iff_getElem?.mp hOther with ⟨m, hAt⟩
    rw [CallbackNode.cancel_entities,
      Option.map_eq_some_iff] at hAt
    rcases hAt with ⟨old, hOld, hChanged⟩
    by_cases hSame : n = m
    · subst hSame
      rw [hEntity, Option.some.injEq] at hOld
      rw [if_pos rfl, ← hOld] at hChanged
      rw [← hChanged]
      exact hDue
    · rw [if_neg hSame] at hChanged
      rw [← hChanged] at hCancelled ⊢
      exact hWindow.ran old (List.mem_of_getElem? hOld) hCancelled
  · intro hActive
    unfold Opened
    rw [hRun, ← or_assoc]
    exact hOpened hActive
  · unfold Opened
    rw [hRun, hRun, ← or_assoc]
    exact hStays

/- A timer for a fault of that id is one of the fault's own. -/
theorem Window.own_timer
    (hWindow : Window scenario loadedAt fault c)
    (hIds : (scenario.faults.map FaultConfig.id).Nodup)
    (hFault : fault ∈ scenario.faults)
    {n : Nat}
    {e : CallbackEntity Callback}
    (hReady : c.node.ready n = some e)
    {key : String}
    {other : FaultConfig}
    (hTimer : e.callback.captured = some (key, other))
    (hSame : other.id = fault.id) :
    key = fault.injectorId ∧ other = fault := by
  have hEntity :=
    List.mem_of_getElem?
      (CallbackNode.ready_eq_some_iff.mp hReady).1
  have hScheduled : e.callback.isScheduled = true := by
    cases hCallback : e.callback with
    | startFault => rfl
    | stopFault => rfl
    | member => simp [hCallback, Callback.captured] at hTimer
  rcases hWindow.timers _ (List.mem_map_of_mem hEntity)
      hScheduled with
    ⟨listed, hListed, delay, hMember, _⟩
  have hCaptured := captured_of_mem_faultTimers hMember
  rw [hTimer, Option.some.injEq, Prod.mk.injEq] at hCaptured
  rcases hCaptured with ⟨rfl, rfl⟩
  have hEq : other = fault :=
    List.inj_on_of_nodup_map hIds hListed hFault hSame
  exact ⟨by rw [hEq], hEq⟩

theorem Window.runStart
    (hWindow : Window scenario loadedAt fault c)
    (hIds : (scenario.faults.map FaultConfig.id).Nodup)
    (hFault : fault ∈ scenario.faults)
    {n : Nat}
    {e : CallbackEntity Callback}
    {key : String}
    {other : FaultConfig}
    (hReady : c.node.ready n = some e)
    (hCallback : e.callback = .startFault key other)
    (hPersist :
      (FaultScheduler.runStart n key other c).TimersPersist) :
    Window scenario loadedAt fault
      (FaultScheduler.runStart n key other c) := by
  have hSwitch := runStart_switches c key other n
  have hHas := hSwitch.hasFault fault.injectorId fault.id
  refine hWindow.runTimer hReady rfl hPersist hHas ?_ ?_
  · rw [hSwitch.isActive]
    split
    · rename_i hSame
      intro _
      rcases hWindow.own_timer hIds hFault hReady
          (by rw [hCallback]; rfl) hSame.2.1 with
        ⟨rfl, rfl⟩
      exact Or.inr hCallback
    · exact fun hActive => Or.inl (hWindow.opened hActive)
  · intro hOpened hStopped
    rw [hSwitch.isActive]
    split
    · rfl
    · rename_i hOther
      rcases hOpened with hBefore | hOwn
      · exact
          hWindow.stays hBefore fun hRan =>
            hStopped (Or.inl hRan)
      · rw [hCallback, Callback.startFault.injEq] at hOwn
        rcases hOwn with ⟨rfl, rfl⟩
        exact absurd ⟨rfl, rfl, hWindow.registered⟩ hOther

theorem Window.runStop
    (hWindow : Window scenario loadedAt fault c)
    (hIds : (scenario.faults.map FaultConfig.id).Nodup)
    (hFault : fault ∈ scenario.faults)
    {n : Nat}
    {e : CallbackEntity Callback}
    {key : String}
    {other : FaultConfig}
    (hReady : c.node.ready n = some e)
    (hCallback : e.callback = .stopFault key other)
    (hPersist :
      (FaultScheduler.runStop n key other c).TimersPersist) :
    Window scenario loadedAt fault
      (FaultScheduler.runStop n key other c) := by
  have hSwitch := runStop_switches c key other n
  have hHas := hSwitch.hasFault fault.injectorId fault.id
  refine hWindow.runTimer hReady rfl hPersist hHas ?_ ?_
  · rw [hSwitch.isActive]
    split
    · exact fun hActive => by cases hActive
    · exact fun hActive => Or.inl (hWindow.opened hActive)
  · intro hOpened hStopped
    rw [hSwitch.isActive]
    split
    · rename_i hSame
      rcases hWindow.own_timer hIds hFault hReady
          (by rw [hCallback]; rfl) hSame.2.1 with
        ⟨rfl, rfl⟩
      exact absurd (Or.inr hCallback) hStopped
    · rcases hOpened with hBefore | hOwn
      · exact
          hWindow.stays hBefore fun hRan =>
            hStopped (Or.inl hRan)
      · rw [hCallback] at hOwn
        cases hOwn

/- A step that leaves the fault's schedule alone keeps it. -/
theorem Window.step
    {a : Action}
    (hWindow : Window scenario loadedAt fault c)
    (hIds : (scenario.faults.map FaultConfig.id).Nodup)
    (hFault : fault ∈ scenario.faults)
    (hLeaves : LeavesSchedule h fault c a)
    (hStep : c.step h a = some after) :
    Window scenario loadedAt fault after := by
  have hPersist := hWindow.persist.step hStep
  cases took_of_step hStep with
  | advanced => exact hWindow.advance _ _
  | started hReady hCallback =>
      exact hWindow.runStart hIds hFault hReady hCallback hPersist
  | stopped hReady hCallback =>
      exact hWindow.runStop hIds hFault hReady hCallback hPersist
  | member => exact hWindow
  | unresolved => exact hWindow
  | @switched request target _ =>
      have hSwitch := switchFault_switches c target request
      refine hWindow.of_same rfl hPersist
        (hSwitch.hasFault _ _) ?_
      rw [hSwitch.isActive, if_neg]
      exact fun hSame => hLeaves hSame.2.1
  | refused => exact hWindow
  | stored hResolve hField hValid hUpdate =>
      refine hWindow.of_same rfl hPersist ?_
        (isActive_storeValue hResolve hUpdate _ _)
      exact
        hasFault_step (fun _ hReload => by cases hReload) hStep
          _ _
  | rejected => exact hWindow
  | reloaded hCheck => exact absurd hCheck (hLeaves _)
  | delivered => exact hWindow.of_same rfl hPersist rfl rfl

------------------------------------------------------------
-- The Window Of A Fault
------------------------------------------------------------

variable {factory : InjectorConfig → Bool}

theorem window_of_started
    (hIds : (scenario.faults.map FaultConfig.id).Nodup)
    (hStarted : Started h factory scenario c)
    (hFault : fault ∈ scenario.faults)
    (hRuns : (c.injector? fault.injectorId).isSome = true) :
    Window scenario c.node.steadyNow fault c := by
  have hFresh := (flagsRegistered_of_started hStarted).2
  have hFlag := isActive_of_started hStarted hFault hRuns
  refine ⟨Int.le_refl _, timersPersist_of_started hStarted,
    ?_, ?_, ?_, ?_, ?_, ?_⟩
  · exact
      hasFault_iff_faultConfig.mpr
        ⟨fault, faultConfig_of_started hStarted hIds hFault hRuns⟩
  · intro entry hEntry hScheduled
    rcases List.mem_map.mp hEntry with ⟨e, hEntity, rfl⟩
    rcases timers_of_started hStarted e hEntity hScheduled with
      ⟨listed, hListed, delay, hTimer, hDue, _⟩
    exact ⟨listed, hListed, delay, hTimer, hDue⟩
  · intro hInactive hStart
    rcases Option.ne_none_iff_exists'.mp hStart with
      ⟨start, hSome⟩
    rcases startTimer_of_started hStarted hFault hRuns hInactive
        hSome with
      ⟨n, e, hEntity, hCallback, _, _⟩
    exact
      ⟨_, List.mem_map_of_mem (List.mem_of_getElem? hEntity),
        hCallback⟩
  · exact fun e hEntity hCancelled =>
      absurd ⟨e, hEntity, rfl, hCancelled⟩ (hFresh e.callback)
  · intro hActive
    rw [hFlag] at hActive
    exact Or.inl hActive
  · rintro (hActive | hRan) _
    · rw [hFlag]
      exact hActive
    · exact absurd hRan (hFresh _)

/- The fault's start timer is due when its window opens. -/
theorem Window.dueAt_start
    (hWindow : Window scenario loadedAt fault c)
    {e : CallbackEntity Callback}
    (hEntity : e ∈ c.node.entities)
    (hCallback :
      e.callback = .startFault fault.injectorId fault) :
    e.dueAt = opensAt loadedAt scenario fault := by
  rcases hWindow.timers _ (List.mem_map_of_mem hEntity)
      (by rw [hCallback]; rfl) with
    ⟨listed, _, delay, hTimer, hDueAt⟩
  have hCaptured := captured_of_mem_faultTimers hTimer
  rw [hCallback] at hTimer hCaptured
  rw [Callback.captured, Option.some.injEq,
    Prod.mk.injEq] at hCaptured
  rw [← hCaptured.2] at hTimer
  rw [opensAt_of_mem_faultTimers hTimer]
  exact hDueAt

/- Its stop timer is due when the window closes. -/
theorem Window.dueAt_stop
    (hWindow : Window scenario loadedAt fault c)
    {e : CallbackEntity Callback}
    (hEntity : e ∈ c.node.entities)
    (hCallback :
      e.callback = .stopFault fault.injectorId fault) :
    ∃ time,
      e.dueAt = some time ∧
        closesAt loadedAt scenario fault = some time := by
  rcases hWindow.timers _ (List.mem_map_of_mem hEntity)
      (by rw [hCallback]; rfl) with
    ⟨listed, _, delay, hTimer, hDueAt⟩
  have hCaptured := captured_of_mem_faultTimers hTimer
  rw [hCallback] at hTimer hCaptured
  rw [Callback.captured, Option.some.injEq,
    Prod.mk.injEq] at hCaptured
  rw [← hCaptured.2] at hTimer
  exact ⟨_, hDueAt, closesAt_of_mem_faultTimers hTimer⟩

/- What is due at a time and has run was due by now. -/
theorem Window.due_of_ran
    (hWindow : Window scenario loadedAt fault c)
    {e : CallbackEntity Callback}
    (hEntity : e ∈ c.node.entities)
    (hCancelled : e.cancelled = true)
    {time : Int}
    (hDueAt : e.dueAt = some time) :
    time ≤ c.node.steadyNow := by
  have hDue := hWindow.ran e hEntity hCancelled
  unfold CallbackEntity.due at hDue
  rw [hDueAt, Option.all_some, decide_eq_true_iff] at hDue
  exact hDue

/- Before its window opens the fault is inactive. -/
theorem Window.inactive_before
    (hWindow : Window scenario loadedAt fault c)
    (hBefore :
      ∀ time, opensAt loadedAt scenario fault = some time →
        c.node.steadyNow < time) :
    c.isActive fault.injectorId fault.id = false := by
  rw [← Bool.not_eq_true]
  intro hActive
  rcases hWindow.opened hActive with hInitially | hRan
  · have hEarly := hBefore loadedAt (if_pos hInitially)
    exact absurd hWindow.clock (Int.not_le.mpr hEarly)
  · rcases hRan with ⟨e, hEntity, hCallback, hCancelled⟩
    have hDueAt := hWindow.dueAt_start hEntity hCallback
    cases hOpens : opensAt loadedAt scenario fault with
    | none =>
        have hAlways := hWindow.ran e hEntity hCancelled
        rcases hWindow.timers _ (List.mem_map_of_mem hEntity)
            (by rw [hCallback]; rfl) with
          ⟨_, _, delay, _, hSome⟩
        rw [hDueAt, hOpens] at hSome
        cases hSome
    | some time =>
        rw [hOpens] at hDueAt
        have hPast :=
          hWindow.due_of_ran hEntity hCancelled hDueAt
        exact absurd hPast (Int.not_le.mpr (hBefore time hOpens))

/- Within its window the fault is active. -/
theorem Window.active_within
    (hWindow : Window scenario loadedAt fault c)
    (hIdle : c.Idle)
    {opens : Int}
    (hOpens : opensAt loadedAt scenario fault = some opens)
    (hAfter : opens ≤ c.node.steadyNow)
    (hBefore :
      ∀ time, closesAt loadedAt scenario fault = some time →
        c.node.steadyNow < time) :
    c.isActive fault.injectorId fault.id = true := by
  apply hWindow.stays
  · unfold Opened
    by_cases hInitially :
        isInitiallyActive fault
            scenario.initiallyActiveFaults =
          true
    · exact Or.inl hInitially
    · refine Or.inr ?_
      have hStart : fault.start ≠ none := by
        intro hNone
        rw [opensAt, if_neg hInitially, hNone] at hOpens
        cases hOpens
      rcases hWindow.waits (Bool.not_eq_true _ ▸ hInitially)
          hStart with
        ⟨entry, hEntry, hCallback⟩
      rcases List.mem_map.mp hEntry with ⟨e, hEntity, rfl⟩
      dsimp only at hCallback
      refine ⟨e, hEntity, hCallback, ?_⟩
      by_contra hPending
      rw [Bool.not_eq_true] at hPending
      rcases List.mem_iff_getElem?.mp hEntity with ⟨n, hAt⟩
      have hDueAt := hWindow.dueAt_start hEntity hCallback
      have hDue : e.due c.node.steadyNow = true := by
        unfold CallbackEntity.due
        rw [hDueAt, hOpens, Option.all_some,
          decide_eq_true_iff]
        exact hAfter
      have hScheduled : e.callback.isScheduled = true := by
        rw [hCallback]
        rfl
      have hReady :=
        ready_of_pending hWindow.persist hAt hScheduled
          hPending hDue
      rw [hIdle n e hReady] at hScheduled
      cases hScheduled
  · rintro ⟨e, hEntity, hCallback, hCancelled⟩
    rcases hWindow.dueAt_stop hEntity hCallback with
      ⟨time, hDueAt, hCloses⟩
    have hPast := hWindow.due_of_ran hEntity hCancelled hDueAt
    exact absurd hPast (Int.not_le.mpr (hBefore time hCloses))

/-
  In every run that leaves the fault's schedule alone the
  fault is inactive before its window opens, and active within
  it whenever the timers that are due have run.
-/
theorem active_in_window
    {start : FaultController}
    {actions : List Action}
    (hIds : (scenario.faults.map FaultConfig.id).Nodup)
    (hStarted : Started h factory scenario start)
    (hFault : fault ∈ scenario.faults)
    (hRuns : (start.injector? fault.injectorId).isSome = true)
    (hLeaves :
      Along (step h) (LeavesSchedule h fault) start actions)
    (hRun : run (step h) start actions = some c) :
    ((∀ time,
        opensAt start.node.steadyNow scenario fault =
            some time →
          c.node.steadyNow < time) →
      c.isActive fault.injectorId fault.id = false) ∧
      ∀ opens,
        opensAt start.node.steadyNow scenario fault =
            some opens →
          opens ≤ c.node.steadyNow →
            (∀ time,
                closesAt start.node.steadyNow scenario fault =
                    some time →
                  c.node.steadyNow < time) →
              c.Idle →
                c.isActive fault.injectorId fault.id =
                  true := by
  have hWindow :
      Window scenario start.node.steadyNow fault c :=
    run_invariant
      (fun _ _ _ hState hLeft hStep =>
        hState.step hIds hFault hLeft hStep)
      (window_of_started hIds hStarted hFault hRuns) hLeaves
      hRun
  refine ⟨hWindow.inactive_before, ?_⟩
  intro opens hOpens hAfter hBefore hIdle
  exact hWindow.active_within hIdle hOpens hAfter hBefore

end Window

end FaultController

------------------------------------------------------------
-- An Open Window
------------------------------------------------------------

namespace FaultController.OpenWindow

open FaultServiceManager Transition

/- It starts after a second and stops two seconds later. -/
def fault : FaultConfig where
  id := "bias"
  injectorId := "base"
  start := some 1000
  duration := some 2000

def scenario : ScenarioConfig where
  injectors :=
    [{ id := "base", type := "odom",
       topic := some
        { inputTopic := "odom"
          outputTopic := "odom_faulty" } }]
  faults := [fault, { id := "drop", injectorId := "base" }]

def started : FaultController :=
  (construct .insertion (fun _ => true) {} 0 scenario).state

/- Another fault is switched before the start timer runs. -/
def actions : List Action :=
  [ .setFaultState ⟨"drop", true⟩,
    .advance 1500000000 0, .callback 3 ]

def last : FaultController :=
  ((run (step .insertion) started actions).getD started)

theorem started_started :
    Started .insertion (fun _ => true) scenario started :=
  ⟨0, 0, by rfl⟩

theorem run_actions :
    run (step .insertion) started actions = some last := by
  have hSome :
      (run (step .insertion) started actions).isSome =
        true := by
    decide
  rcases Option.isSome_iff_exists.mp hSome with ⟨c, hRun⟩
  rw [last, hRun]
  rfl

theorem active_in_window_after_start :
    opensAt 0 scenario fault = some 1000000000 ∧
      closesAt 0 scenario fault = some 3000000000 ∧
        last.isActive "base" "bias" = true := by
  have hLeaves :
      Along (step .insertion) (LeavesSchedule .insertion fault)
        started actions := by
    refine along_of_mem ?_ started
    intro a hAction s
    simp only [actions, List.mem_cons, List.not_mem_nil,
      or_false] at hAction
    rcases hAction with rfl | rfl | rfl
    · exact fun hSame => absurd hSame (by decide)
    · exact True.intro
    · exact True.intro
  have hFault : fault ∈ scenario.faults := by decide
  have hWindow :=
    active_in_window (by decide) started_started hFault
      (by decide) hLeaves run_actions
  refine ⟨by decide, by decide, ?_⟩
  refine
    hWindow.2 1000000000 (by decide) (by decide +kernel) ?_
      (by decide +kernel)
  intro time hCloses
  have hTime : time = 3000000000 :=
    Option.some.inj (hCloses.symm.trans (by decide))
  rw [hTime]
  decide +kernel

end FaultController.OpenWindow
