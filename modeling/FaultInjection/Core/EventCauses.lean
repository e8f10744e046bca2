import FaultInjection.Core.EventReplay
import FaultInjection.Core.TimerLifetime
import FaultInjection.Core.FaultWindow
import FaultInjection.Core.EventClock

/-
  Where the recorded events come from.

  Every event of a run was made by the startup activation of
  a fault, by a timer that was scheduled for one, or by a
  request; a timer makes one event at most. A fault that
  nothing starts is therefore never active.

  Key definitions include:
    * `Callback.timerEvent`
    * `FaultController.LoadedIn`
    * `FaultController.Planned`
    * `FaultController.Caused`
    * `FaultController.NeverStarted`

  Key theorems include:
    * `FaultController.events_have_causes`
    * `FaultController.timers_act_once`
    * `FaultController.idle_fault_stays_inactive`
-/

------------------------------------------------------------
-- Planned Events
------------------------------------------------------------

/- The event by which the scheduler switches a listed fault. -/
def FaultScheduler.plannedEvent
    (key : String)
    (fault : FaultConfig)
    (value : Bool)
    (source : String) : FaultEvent where
  faultId := fault.id
  injectorId := key
  state := stateText value
  source := source
  details := describeConfig fault.config

/- The event that the callback of a timer publishes. -/
def Callback.timerEvent : Callback → Option FaultEvent
| .startFault key fault =>
    some (FaultScheduler.plannedEvent key fault true "scheduled")
| .stopFault key fault =>
    some
      (FaultScheduler.plannedEvent key fault false "scheduled")
| .member _ => none

namespace FaultController

open FaultScheduler FaultServiceManager Transition

section Planned

variable {c : FaultController}

theorem scheduledEvent_eq_planned
    (hNamed : c.Named)
    (key : String)
    (fault : FaultConfig)
    (value : Bool)
    (source : String) :
    scheduledEvent c key fault (stateText value) source =
      plannedEvent key fault value source := by
  unfold scheduledEvent
  rw [hNamed.injectorId]
  rfl

/- An injector is created under its own id. -/
theorem Named.addInjector
    (hNamed : c.Named)
    (config : InjectorConfig) :
    (FaultController.addInjector config c).Named := by
  intro key injector hInjector
  rw [injector?_addInjector] at hInjector
  split at hInjector
  · rename_i hKey
    rw [Option.some.injEq] at hInjector
    rw [← hInjector]
    exact hKey
  · exact hNamed key injector hInjector

theorem recordedEvents_activateNow
    (hNamed : c.Named)
    (key : String)
    (fault : FaultConfig) :
    (activateNow key fault c).recordedEvents =
      c.recordedEvents ++
        [plannedEvent key fault true "startup"] := by
  have hSame := sameInjectors_setActive c key fault.id true
  rw [← scheduledEvent_eq_planned (hSame.configured hNamed)]
  exact recordedEvents_publishEvent

theorem recordedEvents_runStart
    (hNamed : c.Named)
    (n : Nat)
    (key : String)
    (fault : FaultConfig) :
    (runStart n key fault c).recordedEvents =
      c.recordedEvents ++
        [plannedEvent key fault true "scheduled"] := by
  have hSame := sameInjectors_setActive c key fault.id true
  rw [← scheduledEvent_eq_planned (hSame.configured hNamed)]
  exact recordedEvents_publishEvent

theorem recordedEvents_runStop
    (hNamed : c.Named)
    (n : Nat)
    (key : String)
    (fault : FaultConfig) :
    (runStop n key fault c).recordedEvents =
      c.recordedEvents ++
        [plannedEvent key fault false "scheduled"] := by
  have hSame := sameInjectors_setActive c key fault.id false
  rw [← scheduledEvent_eq_planned (hSame.configured hNamed)]
  exact recordedEvents_publishEvent

end Planned

------------------------------------------------------------
-- Causes
------------------------------------------------------------

/-
  A scenario that a run loads: the one it was started with,
  or one that a reload of the run accepted.
-/
def LoadedIn
    (h : HashOrder String)
    (start : FaultController)
    (scenario : ScenarioConfig)
    (actions : List Action)
    (loaded : ScenarioConfig) : Prop :=
  loaded = scenario ∨
    ∃ c content,
      Performs (step h) start actions c
          (.reloadScenario content) ∧
        c.checkReload h content = .ok loaded

/- A timer that the run schedules for a fault that it loads. -/
def Planned
    (h : HashOrder String)
    (start : FaultController)
    (scenario : ScenarioConfig)
    (actions : List Action)
    (callback : Callback) : Prop :=
  ∃ loaded fault delay,
    LoadedIn h start scenario actions loaded ∧
      fault ∈ loaded.faults ∧
        (callback, delay) ∈
          faultTimers loaded.initiallyActiveFaults
            fault.injectorId fault

/- What in a run can make an event. -/
inductive Caused
    (h : HashOrder String)
    (start : FaultController)
    (scenario : ScenarioConfig)
    (actions : List Action) : FaultEvent → Prop
| startup {loaded : ScenarioConfig} {fault : FaultConfig}
    (hLoaded : LoadedIn h start scenario actions loaded)
    (hFault : fault ∈ loaded.faults)
    (hActive :
      isInitiallyActive fault loaded.initiallyActiveFaults =
        true) :
    Caused h start scenario actions
      (plannedEvent fault.injectorId fault true "startup")
| timer {callback : Callback} {event : FaultEvent}
    (hPlanned : Planned h start scenario actions callback)
    (hEvent : callback.timerEvent = some event) :
    Caused h start scenario actions event
| switched {c : FaultController}
    {request : SetFaultStateRequest} {target : Target}
    (hPerforms :
      Performs (step h) start actions c
        (.setFaultState request))
    (hResolve :
      resolveFault h c request.faultId = .ok target) :
    Caused h start scenario actions
      (manualEvent target request.faultId
        (stateText request.active)
        (describeFault target.fault))
| configured {c : FaultController}
    {request : SetFaultConfigRequest} {target : Target}
    (hPerforms :
      Performs (step h) start actions c
        (.setFaultConfig request))
    (hResolve :
      resolveFault h c request.faultId = .ok target)
    (hSuccess :
      (handleSetFaultConfig h request c).2.success = true) :
    Caused h start scenario actions
      (manualEvent target request.faultId "config_updated"
        (describeConfigUpdate request.key request.value))

section Later

variable {h : HashOrder String}
variable {start : FaultController}
variable {scenario loaded : ScenarioConfig}
variable {actions : List Action}

theorem LoadedIn.snoc
    (hLoaded : LoadedIn h start scenario actions loaded)
    (a : Action) :
    LoadedIn h start scenario (actions ++ [a]) loaded := by
  rcases hLoaded with hFirst | ⟨c, content, hPerforms, hCheck⟩
  · exact Or.inl hFirst
  · exact Or.inr ⟨c, content, hPerforms.snoc a, hCheck⟩

theorem Planned.snoc
    {callback : Callback}
    (hPlanned : Planned h start scenario actions callback)
    (a : Action) :
    Planned h start scenario (actions ++ [a]) callback := by
  rcases hPlanned with
    ⟨loaded, fault, delay, hLoaded, hFault, hTimer⟩
  exact
    ⟨loaded, fault, delay, hLoaded.snoc a, hFault, hTimer⟩

theorem Caused.snoc
    {event : FaultEvent}
    (hCaused : Caused h start scenario actions event)
    (a : Action) :
    Caused h start scenario (actions ++ [a]) event := by
  cases hCaused with
  | startup hLoaded hFault hActive =>
      exact .startup (hLoaded.snoc a) hFault hActive
  | timer hPlanned hEvent =>
      exact .timer (hPlanned.snoc a) hEvent
  | switched hPerforms hResolve =>
      exact .switched (hPerforms.snoc a) hResolve
  | configured hPerforms hResolve hSuccess =>
      exact .configured (hPerforms.snoc a) hResolve hSuccess

end Later

------------------------------------------------------------
-- Explained States
------------------------------------------------------------

/-
  Every recorded event is among those that are caused, and
  every timer among those that are planned.
-/
structure Explained
    (caused : FaultEvent → Prop)
    (planned : Callback → Prop)
    (c : FaultController) : Prop where
  named : c.Named
  events : ∀ event ∈ c.recordedEvents, caused event
  timers :
    ∀ e ∈ c.node.entities, e.callback.isScheduled = true →
      planned e.callback

section Explained

variable {h : HashOrder String}
variable {caused : FaultEvent → Prop}
variable {planned : Callback → Prop}
variable {c after : FaultController}

/- More causes and plans explain as much. -/
theorem Explained.mono
    {moreCaused : FaultEvent → Prop}
    {morePlanned : Callback → Prop}
    (hExplained : Explained caused planned c)
    (hCaused : ∀ event, caused event → moreCaused event)
    (hPlanned :
      ∀ callback, planned callback → morePlanned callback) :
    Explained moreCaused morePlanned c where
  named := hExplained.named
  events := fun event hEvent =>
    hCaused event (hExplained.events event hEvent)
  timers := fun e hEntity hScheduled =>
    hPlanned _ (hExplained.timers e hEntity hScheduled)

/- Nothing is recorded and no timer is created. -/
theorem Explained.of_same
    (hExplained : Explained caused planned c)
    (hSame : SameInjectors after c)
    (hEvents : after.recordedEvents = c.recordedEvents)
    (hEntities : after.node.entities = c.node.entities) :
    Explained caused planned after where
  named := hSame.configured hExplained.named
  events := by
    rw [hEvents]
    exact hExplained.events
  timers := by
    rw [hEntities]
    exact hExplained.timers

/- An event that has a cause is recorded. -/
theorem Explained.record
    {event : FaultEvent}
    (hExplained : Explained caused planned c)
    (hSame : SameInjectors after c)
    (hEvents :
      after.recordedEvents = c.recordedEvents ++ [event])
    (hCaused : caused event)
    (hEntities :
      ∀ e ∈ after.node.entities,
        ∃ old ∈ c.node.entities, e.callback = old.callback) :
    Explained caused planned after where
  named := hSame.configured hExplained.named
  events := by
    intro other hOther
    rw [hEvents, List.mem_append, List.mem_singleton]
      at hOther
    rcases hOther with hOld | rfl
    · exact hExplained.events other hOld
    · exact hCaused
  timers := by
    intro e hEntity
    rcases hEntities e hEntity with ⟨old, hOld, hCallback⟩
    rw [hCallback]
    exact hExplained.timers old hOld

theorem callback_of_mem_cancel
    {n : Nat}
    {e : CallbackEntity Callback}
    (hEntity : e ∈ (c.node.cancel n).entities) :
    ∃ old ∈ c.node.entities, e.callback = old.callback := by
  rcases CallbackNode.mem_cancel_entities hEntity with
    ⟨old, hOld, rfl | rfl⟩
  · exact ⟨_, hOld, rfl⟩
  · exact ⟨old, hOld, rfl⟩

theorem Explained.activateNow
    {key : String}
    {fault : FaultConfig}
    (hExplained : Explained caused planned c)
    (hCaused : caused (plannedEvent key fault true "startup")) :
    Explained caused planned
      (FaultScheduler.activateNow key fault c) :=
  hExplained.record (sameInjectors_setActive c key fault.id true)
    (recordedEvents_activateNow hExplained.named key fault)
    hCaused fun e hEntity => ⟨e, hEntity, rfl⟩

theorem Explained.addTimer
    {callback : Callback}
    (hExplained : Explained caused planned c)
    (hPlanned : planned callback)
    (delay : Int) :
    Explained caused planned
      (FaultScheduler.addTimer callback delay c) where
  named := hExplained.named
  events := hExplained.events
  timers := by
    intro e hEntity hScheduled
    rcases List.mem_append.mp hEntity with hOld | hNew
    · exact hExplained.timers e hOld hScheduled
    · rw [List.mem_singleton.mp hNew]
      exact hPlanned

theorem Explained.createMember
    (hExplained : Explained caused planned c)
    (m : Member) :
    Explained caused planned (c.createMember m) where
  named := hExplained.named
  events := hExplained.events
  timers := by
    intro e hEntity hScheduled
    rcases List.mem_append.mp hEntity with hOld | hNew
    · exact hExplained.timers e hOld hScheduled
    · rw [List.mem_singleton.mp hNew] at hScheduled
      cases hScheduled

theorem Explained.registerFault
    (hExplained : Explained caused planned c)
    (fault : FaultConfig) :
    Explained caused planned
      (FaultController.registerFault c fault) :=
  hExplained.of_same
    (sameInjectors_modifyInjector fun _ _ => rfl) rfl rfl

/- What loading a scenario has to explain. -/
structure Explains
    (caused : FaultEvent → Prop)
    (planned : Callback → Prop)
    (scenario : ScenarioConfig) : Prop where
  startup :
    ∀ fault ∈ scenario.faults,
      isInitiallyActive fault scenario.initiallyActiveFaults =
          true →
        caused
          (plannedEvent fault.injectorId fault true "startup")
  timers :
    ∀ fault ∈ scenario.faults, ∀ callback delay,
      (callback, delay) ∈
          faultTimers scenario.initiallyActiveFaults
            fault.injectorId fault →
        planned callback

theorem Explained.applyReload
    {newScenario : ScenarioConfig}
    (hExplained : Explained caused planned c)
    (hExplains : Explains caused planned newScenario) :
    Explained caused planned
      (FaultController.applyReload h newScenario c).state := by
  apply applyReload_state (P := Explained caused planned)
  · exact fun fault _ _ hState => hState.registerFault fault
  · intro fault hFault hActive s hState
    exact
      hState.activateNow
        (hExplains.startup fault hFault hActive)
  · intro fault hFault callback delay hTimer _ s hState
    exact
      hState.addTimer
        (hExplains.timers fault hFault callback delay hTimer)
        delay
  · refine hExplained.of_same ?_ rfl rfl
    intro key
    rw [injector?_clearScenario, Option.map_map]
    exact rfl

theorem explained_of_started
    {factory : InjectorConfig → Bool}
    {scenario : ScenarioConfig}
    (hExplains : Explains caused planned scenario)
    (hStarted : Started h factory scenario c) :
    Explained caused planned c := by
  refine started_state (P := Explained caused planned)
    ?_ ?_ ?_ ?_ ?_ ?_ hStarted
  · exact fun m _ hState => hState.createMember m
  · exact fun config _ _ hState =>
      ⟨hState.named.addInjector config, hState.events,
        hState.timers⟩
  · exact fun fault _ _ hState => hState.registerFault fault
  · intro fault hFault hActive s hState
    exact
      hState.activateNow
        (hExplains.startup fault hFault hActive)
  · intro fault hFault callback delay hTimer _ s hState
    exact
      hState.addTimer
        (hExplains.timers fault hFault callback delay hTimer)
        delay
  · intro _ _
    refine ⟨?_, ?_, ?_⟩
    · intro _ _ hInjector
      cases hInjector
    · intro _ hEvent
      cases hEvent
    · intro _ hEntity
      cases hEntity

end Explained

------------------------------------------------------------
-- Causes Of A Run
------------------------------------------------------------

section Runs

variable {h : HashOrder String}
variable {factory : InjectorConfig → Bool}
variable {scenario : ScenarioConfig}
variable {start c : FaultController}
variable {actions : List Action}

/- A loaded scenario explains what loading it does. -/
theorem LoadedIn.explains
    {loaded : ScenarioConfig}
    (hLoaded : LoadedIn h start scenario actions loaded) :
    Explains (Caused h start scenario actions)
      (Planned h start scenario actions) loaded where
  startup := fun _ hFault hActive =>
    .startup hLoaded hFault hActive
  timers := fun fault hFault _ delay hTimer =>
    ⟨loaded, fault, delay, hLoaded, hFault, hTimer⟩

/- Every step of a run is explained by the run up to it. -/
theorem explained_of_run
    (hStarted : Started h factory scenario start)
    (hRun : run (step h) start actions = some c) :
    Explained (Caused h start scenario actions)
      (Planned h start scenario actions) c := by
  refine run_invariant_of_past
    (I := fun past s =>
      Explained (Caused h start scenario past)
        (Planned h start scenario past) s)
    ?_ ?_ hRun
  · intro past s a t hPast hBefore hStep
    have hNow :
        Explained (Caused h start scenario (past ++ [a]))
          (Planned h start scenario (past ++ [a])) s :=
      hBefore.mono (fun _ hCaused => hCaused.snoc a)
        fun _ hPlanned => hPlanned.snoc a
    have hPerforms := performs_last hPast a
    have hSame := sameInjectors_step hStep
    cases took_of_step hStep with
    | advanced => exact hNow.of_same hSame rfl rfl
    | started hReady hCallback =>
        have hEntity :=
          (CallbackNode.ready_eq_some_iff.mp hReady).1
        have hPlanned :=
          hNow.timers _ (List.mem_of_getElem? hEntity)
            (by rw [hCallback]; rfl)
        rw [hCallback] at hPlanned
        exact
          hNow.record hSame
            (recordedEvents_runStart hNow.named _ _ _)
            (.timer hPlanned rfl)
            fun _ => callback_of_mem_cancel
    | stopped hReady hCallback =>
        have hEntity :=
          (CallbackNode.ready_eq_some_iff.mp hReady).1
        have hPlanned :=
          hNow.timers _ (List.mem_of_getElem? hEntity)
            (by rw [hCallback]; rfl)
        rw [hCallback] at hPlanned
        exact
          hNow.record hSame
            (recordedEvents_runStop hNow.named _ _ _)
            (.timer hPlanned rfl)
            fun _ => callback_of_mem_cancel
    | member => exact hNow
    | unresolved => exact hNow
    | switched hResolve =>
        exact
          hNow.record hSame recordedEvents_publishEvent
            (.switched hPerforms hResolve)
            fun e hEntity => ⟨e, hEntity, rfl⟩
    | refused => exact hNow
    | stored hResolve hField hValid _ =>
        have hSuccess :=
          setFaultConfig_success_iff.mpr
            ⟨_, _, hResolve, hField, hValid⟩
        exact
          hNow.record hSame recordedEvents_publishEvent
            (.configured hPerforms hResolve hSuccess)
            fun e hEntity => ⟨e, hEntity, rfl⟩
    | rejected => exact hNow
    | reloaded hCheck =>
        have hLoaded :
            LoadedIn h start scenario (past ++ [_]) _ :=
          Or.inr ⟨s, _, hPerforms, hCheck⟩
        exact hNow.applyReload hLoaded.explains
    | delivered => exact hNow.of_same hSame rfl rfl
  · have hLoaded : LoadedIn h start scenario [] scenario :=
      Or.inl rfl
    exact explained_of_started hLoaded.explains hStarted

/-
  Every recorded event was made by a startup activation or a
  timer of a scenario that the run loaded, or by a request
  that the run answered.
-/
theorem events_have_causes
    (hStarted : Started h factory scenario start)
    (hRun : run (step h) start actions = some c) :
    ∀ event ∈ c.recordedEvents,
      Caused h start scenario actions event :=
  (explained_of_run hStarted hRun).events

end Runs

------------------------------------------------------------
-- One Event For Each Timer
------------------------------------------------------------

section TimersActOnce

variable {h : HashOrder String}
variable {c after : FaultController}

/- The recorded events that the scheduler's timers made. -/
def scheduledEvents (c : FaultController) : List FaultEvent :=
  c.recordedEvents.filter fun event => event.source = "scheduled"

/- The events of the timers whose callback has run. -/
def timerEvents (c : FaultController) : List FaultEvent :=
  c.node.ran.filterMap fun e => e.callback.timerEvent

/- The timers that have run made the scheduled events. -/
structure TimersTold (c : FaultController) : Prop where
  named : c.Named
  events : c.scheduledEvents.Perm c.timerEvents

theorem TimersTold.of_same
    (hTold : c.TimersTold)
    (hSame : SameInjectors after c)
    (hEvents : after.scheduledEvents = c.scheduledEvents)
    (hRan : after.node.ran = c.node.ran) :
    after.TimersTold where
  named := hSame.configured hTold.named
  events := by
    unfold timerEvents
    rw [hEvents, hRan]
    exact hTold.events

/- An event of another source is no scheduled event. -/
theorem scheduledEvents_of_other
    {event : FaultEvent}
    (hEvents :
      after.recordedEvents = c.recordedEvents ++ [event])
    (hSource : event.source ≠ "scheduled") :
    after.scheduledEvents = c.scheduledEvents := by
  unfold scheduledEvents
  rw [hEvents, List.filter_append,
    List.filter_cons_of_neg (by simpa using hSource)]
  simp

theorem TimersTold.runTimer
    {n : Nat}
    {e : CallbackEntity Callback}
    {event : FaultEvent}
    (hTold : c.TimersTold)
    (hReady : c.node.ready n = some e)
    (hEvent : e.callback.timerEvent = some event)
    (hSource : event.source = "scheduled")
    (hSame : SameInjectors after c)
    (hEvents :
      after.recordedEvents = c.recordedEvents ++ [event])
    (hNode : after.node = c.node.cancel n) :
    after.TimersTold where
  named := hSame.configured hTold.named
  events := by
    rcases CallbackNode.ready_eq_some_iff.mp hReady with
      ⟨hEntity, hPending, _, _⟩
    have hRan :=
      CallbackNode.perm_ran_cancel hEntity hPending
    have hTimers :
        after.timerEvents.Perm (event :: c.timerEvents) := by
      unfold timerEvents
      rw [hNode]
      refine (hRan.filterMap _).trans ?_
      simp only [List.filterMap_cons, hEvent]
      exact List.Perm.refl _
    have hScheduled :
        after.scheduledEvents = c.scheduledEvents ++ [event] := by
      unfold scheduledEvents
      rw [hEvents, List.filter_append,
        List.filter_cons_of_pos (by simpa using hSource)]
      simp
    rw [hScheduled]
    refine
      (List.perm_append_singleton event _).trans
        (.trans ?_ hTimers.symm)
    exact hTold.events.cons event

theorem TimersTold.activateNow
    (hTold : c.TimersTold)
    (key : String)
    (fault : FaultConfig) :
    (FaultScheduler.activateNow key fault c).TimersTold := by
  refine hTold.of_same
    (sameInjectors_setActive c key fault.id true) ?_ rfl
  have hOther : "startup" ≠ "scheduled" := by decide
  exact
    scheduledEvents_of_other
      (recordedEvents_activateNow hTold.named key fault) hOther

theorem TimersTold.applyReload
    {newScenario : ScenarioConfig}
    (hTold : c.TimersTold) :
    (FaultController.applyReload h newScenario
      c).state.TimersTold := by
  apply applyReload_state (P := TimersTold)
  · exact fun _ _ _ hState =>
      hState.of_same (sameInjectors_modifyInjector
        fun _ _ => rfl) rfl rfl
  · exact fun fault _ _ _ hState =>
      hState.activateNow fault.injectorId fault
  · intro _ _ _ _ _ _ s hState
    exact
      hState.of_same (fun _ => rfl) rfl
        (CallbackNode.ran_addWallTimer _ _ _ _)
  · refine hTold.of_same ?_ rfl rfl
    intro key
    rw [injector?_clearScenario, Option.map_map]
    exact rfl

theorem TimersTold.step
    {a : Action}
    (hTold : c.TimersTold)
    (hStep : c.step h a = some after) :
    after.TimersTold := by
  have hSame := sameInjectors_step hStep
  have hManual : "manual" ≠ "scheduled" := by decide
  cases took_of_step hStep with
  | advanced => exact hTold.of_same hSame rfl rfl
  | started hReady hCallback =>
      exact
        hTold.runTimer hReady (by rw [hCallback]; rfl) rfl hSame
          (recordedEvents_runStart hTold.named _ _ _) rfl
  | stopped hReady hCallback =>
      exact
        hTold.runTimer hReady (by rw [hCallback]; rfl) rfl hSame
          (recordedEvents_runStop hTold.named _ _ _) rfl
  | member => exact hTold
  | unresolved => exact hTold
  | switched =>
      refine hTold.of_same hSame ?_ rfl
      exact
        scheduledEvents_of_other recordedEvents_publishEvent
          hManual
  | refused => exact hTold
  | stored =>
      refine hTold.of_same hSame ?_ rfl
      exact
        scheduledEvents_of_other recordedEvents_publishEvent
          hManual
  | rejected => exact hTold
  | reloaded => exact hTold.applyReload
  | delivered => exact hTold.of_same hSame rfl rfl

theorem timersTold_of_started
    {factory : InjectorConfig → Bool}
    {scenario : ScenarioConfig}
    (hStarted : Started h factory scenario c) :
    c.TimersTold := by
  refine started_state (P := TimersTold)
    ?_ ?_ ?_ ?_ ?_ ?_ hStarted
  · intro _ _ hState
    exact
      hState.of_same (fun _ => rfl) rfl
        (CallbackNode.ran_createMember _ _ _)
  · exact fun config _ _ hState =>
      ⟨hState.named.addInjector config, hState.events⟩
  · exact fun _ _ _ hState =>
      hState.of_same (sameInjectors_modifyInjector
        fun _ _ => rfl) rfl rfl
  · exact fun fault _ _ _ hState =>
      hState.activateNow fault.injectorId fault
  · intro _ _ _ _ _ _ s hState
    exact
      hState.of_same (fun _ => rfl) rfl
        (CallbackNode.ran_addWallTimer _ _ _ _)
  · intro _ _
    refine ⟨?_, List.Perm.refl _⟩
    intro _ _ hInjector
    cases hInjector

/-
  In every reachable state the scheduled events are, up to
  their order, those of the timers that have run, one each.
-/
theorem timers_act_once
    {factory : InjectorConfig → Bool}
    {scenario : ScenarioConfig}
    {start : FaultController}
    {actions : List Action}
    (hStarted : Started h factory scenario start)
    (hRun : run (step h) start actions = some c) :
    c.scheduledEvents.Perm c.timerEvents := by
  have hTold : c.TimersTold :=
    run_invariant (I := TimersTold)
      (fun _ _ _ hState _ hStep => hState.step hStep)
      (timersTold_of_started hStarted)
      (along_of_forall (fun _ _ => trivial) start actions) hRun
  exact hTold.events

end TimersActOnce

------------------------------------------------------------
-- Idle Faults
------------------------------------------------------------

section IdleFaults

variable {h : HashOrder String}
variable {key faultId : String}

/- The stored fault exists and its flag is set. -/
def Registry.Active
    (stored : Registry)
    (key faultId : String) : Prop :=
  ∃ s, stored key faultId = some s ∧ s.active = true

/- The event says that the fault was activated. -/
def Activates
    (key faultId : String)
    (event : FaultEvent) : Prop :=
  event.injectorId = key ∧ event.faultId = faultId ∧
    event.state = "active"

theorem active_of_applyEvent
    {stored : Registry}
    {event : FaultEvent}
    (hActive : (applyEvent stored event).Active key faultId) :
    stored.Active key faultId ∨ Activates key faultId event := by
  rcases hActive with ⟨s, hStored, hFlag⟩
  unfold applyEvent at hStored
  split at hStored
  · rename_i hNames
    rcases Option.map_eq_some_iff.mp hStored with
      ⟨old, hOld, hTell⟩
    by_cases hState : event.state = "active"
    · exact Or.inr ⟨hNames.1, hNames.2, hState⟩
    · refine Or.inl ⟨old, hOld, ?_⟩
      rw [← hTell, StoredFault.tell, if_neg hState] at hFlag
      split at hFlag
      · cases hFlag
      · exact hFlag
  · exact Or.inl ⟨s, hStored, hFlag⟩

/- A replay activates what some event activates. -/
theorem active_of_replay
    {stored : Registry}
    {events : List FaultEvent}
    (hActive :
      Registry.Active (events.foldl applyEvent stored) key
        faultId) :
    stored.Active key faultId ∨
      ∃ event ∈ events, Activates key faultId event := by
  induction events generalizing stored with
  | nil => exact Or.inl hActive
  | cons event events ih =>
      rcases ih hActive with hNext | ⟨other, hOther, hTells⟩
      · rcases active_of_applyEvent hNext with hOld | hTells
        · exact Or.inl hOld
        · exact Or.inr ⟨event, by simp, hTells⟩
      · exact
          Or.inr ⟨other, List.mem_cons_of_mem _ hOther, hTells⟩

variable {factory : InjectorConfig → Bool}
variable {scenario : ScenarioConfig}
variable {start c : FaultController}
variable {actions : List Action}

theorem flagsRegistered_of_run
    (hStarted : Started h factory scenario start)
    (hRun : run (step h) start actions = some c) :
    c.FlagsRegistered :=
  run_invariant (I := FlagsRegistered)
    (fun _ _ _ hState _ hStep => hState.step hStep)
    (flagsRegistered_of_started hStarted).1
    (along_of_forall (fun _ _ => trivial) start actions) hRun

/- What is active was activated by a recorded event. -/
theorem activates_of_isActive
    (hStarted : Started h factory scenario start)
    (hRun : run (step h) start actions = some c)
    (hActive : c.isActive key faultId = true) :
    ∃ event ∈ c.recordedEvents, Activates key faultId event := by
  have hFlags := flagsRegistered_of_run hStarted hRun
  rcases hasFault_iff_faultConfig.mp
      (hFlags key faultId hActive) with
    ⟨fault, hFault⟩
  have hNow : c.registry.Active key faultId := by
    refine ⟨⟨fault, true⟩, ?_, rfl⟩
    unfold registry
    rw [hFault, hActive]
    rfl
  have hReplays : c.registry = eventJournal.replay _ _ :=
    (replaysFrom_of_started_run hStarted hRun).2
  rw [hReplays] at hNow
  rcases active_of_replay hNow with hBase | ⟨event, hEvent, hTells⟩
  · rcases hBase with ⟨s, hStored, hFlag⟩
    unfold loadedRegistry at hStored
    split at hStored
    · rcases Option.map_eq_some_iff.mp hStored with ⟨_, _, rfl⟩
      cases hFlag
    · cases hStored
  · exact ⟨event, List.mem_of_mem_drop hEvent, hTells⟩

/-
  Nothing that the run loads starts the fault, and no request
  of the run activates it.
-/
structure NeverStarted
    (h : HashOrder String)
    (start : FaultController)
    (scenario : ScenarioConfig)
    (actions : List Action)
    (key faultId : String) : Prop where
  loaded :
    ∀ loaded, LoadedIn h start scenario actions loaded →
      ∀ fault ∈ loaded.faults,
        fault.injectorId = key → fault.id = faultId →
          isInitiallyActive fault
                loaded.initiallyActiveFaults =
              false ∧
            fault.start = none
  requests :
    ∀ request, Action.setFaultState request ∈ actions →
      request.faultId = faultId → request.active = false

/-
  A fault that no loaded scenario starts and no request
  activates is inactive in every reachable state.
-/
theorem idle_fault_stays_inactive
    (hStarted : Started h factory scenario start)
    (hRun : run (step h) start actions = some c)
    (hIdle :
      NeverStarted h start scenario actions key faultId) :
    c.isActive key faultId = false := by
  rw [← Bool.not_eq_true]
  intro hActive
  rcases activates_of_isActive hStarted hRun hActive with
    ⟨event, hEvent, hKey, hId, hState⟩
  cases (explained_of_run hStarted hRun).events event hEvent with
  | startup hLoaded hFault hInitially =>
      have hNot := (hIdle.loaded _ hLoaded _ hFault hKey hId).1
      rw [hInitially] at hNot
      cases hNot
  | timer hPlanned hMade =>
      rcases hPlanned with
        ⟨loaded, fault, delay, hLoaded, hFault, hTimer⟩
      rcases callback_of_mem_faultTimers hTimer with
        hStart | hStop
      · dsimp only at hStart
        subst hStart
        rw [Callback.timerEvent, Option.some.injEq] at hMade
        subst hMade
        have hNot := (hIdle.loaded _ hLoaded _ hFault hKey hId).2
        rw [(start_of_mem_faultTimers hTimer).2.1] at hNot
        cases hNot
      · dsimp only at hStop
        subst hStop
        rw [Callback.timerEvent, Option.some.injEq] at hMade
        subst hMade
        have hOther : "inactive" ≠ "active" := by decide
        exact hOther hState
  | switched hPerforms hResolve =>
      have hNot := hIdle.requests _ hPerforms.mem hId
      change stateText _ = "active" at hState
      rw [hNot] at hState
      have hOther : stateText false ≠ "active" := by decide
      exact hOther hState
  | configured =>
      have hOther : "config_updated" ≠ "active" := by decide
      exact hOther hState

end IdleFaults

end FaultController

------------------------------------------------------------
-- An Explained Run
------------------------------------------------------------

namespace FaultController.WatchedRun

open FaultServiceManager Transition

theorem events_have_causes_after_reload :
    last.recordedEvents.length = 5 ∧
      ∀ event ∈ last.recordedEvents,
        Caused .insertion started scenario actions event :=
  ⟨by decide +kernel,
    events_have_causes started_started run_actions⟩

theorem timers_act_once_after_reload :
    last.scheduledEvents.length = 1 ∧
      last.scheduledEvents.Perm last.timerEvents :=
  ⟨by decide +kernel,
    timers_act_once started_started run_actions⟩

end FaultController.WatchedRun

namespace FaultController.IdleRun

open FaultServiceManager Transition

/- Nothing starts its only fault. -/
def scenario : ScenarioConfig where
  injectors := [WatchedRun.injector]
  faults := [{ id := "drop", injectorId := "base" }]

def started : FaultController :=
  (construct .insertion (fun _ => true) {} 0 scenario).state

/- A reload, a wait and a request that switches it off. -/
def actions : List Action :=
  [ .reloadScenario (.ok scenario), .advance 1000000000 0,
    .setFaultState ⟨"drop", false⟩ ]

def last : FaultController :=
  ((run (step .insertion) started actions).getD started)

theorem started_started :
    Started .insertion (fun _ => true) scenario started :=
  ⟨0, 0, by rfl⟩

theorem run_actions :
    run (step .insertion) started actions = some last := by
  have hSome :
      (run (step .insertion) started actions).isSome =
        true := by
    decide
  rcases Option.isSome_iff_exists.mp hSome with ⟨c, hRun⟩
  rw [last, hRun]
  rfl

/- Every scenario that it loads is the one it started with. -/
theorem loaded_eq
    {loaded : ScenarioConfig}
    (hLoaded :
      LoadedIn .insertion started scenario actions loaded) :
    loaded = scenario := by
  rcases hLoaded with hFirst | ⟨c, content, hPerforms, hCheck⟩
  · exact hFirst
  · have hContent := (checkReload_eq_ok_iff.mp hCheck).1
    have hMember := hPerforms.mem
    simp only [actions, List.mem_cons, Action.reloadScenario.injEq,
      reduceCtorEq, List.not_mem_nil, or_false] at hMember
    rw [hMember, Except.ok.injEq] at hContent
    exact hContent.symm

theorem idle_fault_stays_inactive_after_reload :
    last.hasFault "base" "drop" = true ∧
      last.isActive "base" "drop" = false := by
  refine
    ⟨by decide +kernel,
      idle_fault_stays_inactive started_started run_actions
        ⟨?_, ?_⟩⟩
  · intro loaded hLoaded fault hFault _ _
    rw [loaded_eq hLoaded, scenario, List.mem_singleton]
      at hFault
    subst hFault
    rw [loaded_eq hLoaded]
    exact ⟨by decide, rfl⟩
  · intro request hRequest _
    simp only [actions, List.mem_cons, Action.setFaultState.injEq,
      reduceCtorEq, List.not_mem_nil, false_or, or_false]
      at hRequest
    rw [hRequest]

end FaultController.IdleRun
