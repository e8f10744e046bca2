import FaultInjection.Core.Registration

/-
  When a reload is all-or-nothing.

  A reload clears the old faults before it creates the new
  timers, and creating a timer throws when its period does
  not fit into 64-bit nanoseconds.

  Key definitions include:
    * `FaultController.Installed`
    * `FaultController.AllOrNothing`
    * `FaultController.ReloadFits`
    * `FaultController.SchedulesFit`

  Key theorems include:
    * `FaultController.applyReload_returned_iff`
    * `FaultController.installed_applyReload`
    * `FaultController.reload_all_or_nothing_iff`
-/

------------------------------------------------------------
-- Complete Schedules
------------------------------------------------------------

namespace FaultScheduler

/-
  The timers that a fault's start and duration ask for. The
  end of the window is their sum, not a 64-bit sum.
-/
def intendedTimers
    (initiallyActiveFaults : List String)
    (key : String)
    (fault : FaultConfig) : List (Callback × Int) :=
  if isInitiallyActive fault initiallyActiveFaults then
    match fault.duration with
    | some duration => [(.stopFault key fault, duration)]
    | none => []
  else
    match fault.start with
    | none => []
    | some start =>
        (.startFault key fault, start) ::
          match fault.duration with
          | some duration =>
              [(.stopFault key fault, start + duration)]
          | none => []

/- The delay of a timer gives a period that fits. -/
def DelayFits (timer : Callback × Int) : Prop :=
  CallbackNode.periodFits (max timer.2 1) = true

theorem delayFits_iff
    (timer : Callback × Int) :
    DelayFits timer ↔ max timer.2 1 * 10 ^ 6 < 2 ^ 63 := by
  simp [DelayFits, CallbackNode.periodFits]

/- A sum that fits as a period does not wrap around. -/
theorem addMilliseconds_of_fits
    {a b : Int}
    (hNonneg : 0 ≤ a + b)
    (hFits : max (a + b) 1 * 10 ^ 6 < 2 ^ 63) :
    addMilliseconds a b = a + b := by
  unfold addMilliseconds
  apply Int.bmod_eq_of_le
  · omega
  · omega

/-
  When all intended periods of a fault fit, the scheduler
  creates the intended timers.
-/
theorem faultTimers_eq_of_fits
    {initiallyActiveFaults : List String}
    {key : String}
    {fault : FaultConfig}
    (hStart :
      ∀ start, fault.start = some start → 0 ≤ start)
    (hDuration :
      ∀ duration,
        fault.duration = some duration → 0 ≤ duration)
    (hFits :
      ∀ timer ∈
          intendedTimers initiallyActiveFaults key fault,
        DelayFits timer) :
    faultTimers initiallyActiveFaults key fault =
      intendedTimers initiallyActiveFaults key fault := by
  unfold intendedTimers at hFits
  unfold faultTimers intendedTimers
  split
  · rfl
  · rename_i hInactive
    simp only [hInactive] at hFits
    cases hS : fault.start with
    | none => rfl
    | some start =>
        cases hD : fault.duration with
        | none => rfl
        | some duration =>
            simp only [hS, hD] at hFits
            have hEnd :=
              hFits (.stopFault key fault, start + duration)
                (by simp)
            rw [delayFits_iff] at hEnd
            have hNonneg : 0 ≤ start + duration :=
              Int.add_nonneg (hStart start hS)
                (hDuration duration hD)
            simp only
            rw [addMilliseconds_of_fits hNonneg hEnd]

end FaultScheduler

namespace FaultController

open FaultScheduler FaultServiceManager Transition

/- The scheduler holds a pending timer set up just now. -/
def HasTimer
    (c : FaultController)
    (timer : Callback × Int) : Prop :=
  ∃ n ∈ c.timers, ∃ e,
    c.node.entities[n]? = some e ∧
      e.callback = timer.1 ∧
        e.period = some (max timer.2 1) ∧
          e.createdAt = c.node.steadyNow ∧
            e.cancelled = false ∧
              c.node.heap.Live (.entity n)

/-
  The fault is active if the scenario asks for it, and its
  start and stop are scheduled.
-/
def Scheduled
    (c : FaultController)
    (fault : FaultConfig) : Prop :=
  (isInitiallyActive fault
      c.scenario.initiallyActiveFaults = true →
    c.isActive fault.injectorId fault.id = true) ∧
    ∀ timer ∈
        intendedTimers c.scenario.initiallyActiveFaults
          fault.injectorId fault,
      c.HasTimer timer

/- Every fault of the scenario is registered and scheduled. -/
def Installed
    (newScenario : ScenarioConfig)
    (c : FaultController) : Prop :=
  c.scenario = newScenario ∧
    ∀ fault ∈ newScenario.faults,
      c.hasFault fault.injectorId fault.id = true ∧
        c.Scheduled fault

/- Nothing of the runtime state has changed. -/
def SameRuntime (before after : FaultController) : Prop :=
  after.scenario = before.scenario ∧
    after.injectors = before.injectors ∧
      after.timers = before.timers ∧
        after.node = before.node ∧
          after.recorder = before.recorder

/-
  A reload returns success with the new scenario installed,
  or it returns failure or throws and changes nothing.
-/
def AllOrNothing
    (h : HashOrder String)
    (content : Except String ScenarioConfig)
    (c : FaultController) : Prop :=
  (∃ newScenario message,
    content = .ok newScenario ∧
      c.reloadScenarioResult h content =
          some ⟨true, message⟩ ∧
        (c.reloadScenario h content).state.Installed
          newScenario) ∨
    ((∀ result,
        c.reloadScenarioResult h content = some result →
          result.success = false) ∧
      SameRuntime c (c.reloadScenario h content).state)

/-
  The scenario names only running injectors, and every period
  it asks for fits into 64-bit nanoseconds.
-/
def ScenarioFits
    (c : FaultController)
    (newScenario : ScenarioConfig) : Prop :=
  ∀ fault ∈ newScenario.faults,
    (c.injector? fault.injectorId).isSome = true ∧
      ∀ timer ∈
          intendedTimers newScenario.initiallyActiveFaults
            fault.injectorId fault,
        DelayFits timer

/-
  A new scenario that passes all checks names only running
  injectors, and every period it asks for fits into 64-bit
  nanoseconds.
-/
def ReloadFits
    (h : HashOrder String)
    (content : Except String ScenarioConfig)
    (c : FaultController) : Prop :=
  ∀ newScenario, content = .ok newScenario →
    (validateScenario h newScenario).ok = true →
      (c.validateReloadCompatible newScenario).success =
          true →
        ∀ fault ∈ newScenario.faults,
          (c.injector? fault.injectorId).isSome = true ∧
            ∀ timer ∈
                intendedTimers
                  newScenario.initiallyActiveFaults
                  fault.injectorId fault,
              DelayFits timer

/- The periods of the loaded scenario fit. -/
def SchedulesFit (c : FaultController) : Prop :=
  ∀ fault ∈ c.scenario.faults,
    (c.injector? fault.injectorId).isSome = true →
      ∀ timer ∈
          faultTimers c.scenario.initiallyActiveFaults
            fault.injectorId fault,
        DelayFits timer

------------------------------------------------------------
-- When Scheduling Returns
------------------------------------------------------------

section Returns

variable {h : HashOrder String}
variable {c : FaultController}

theorem scheduleFaults_returned_iff_fit :
    (scheduleFaults h c).returned = true ↔
      c.SchedulesFit := by
  rw [scheduleFaults_returned_iff]
  constructor
  · intro hItems fault hFault hRuns timer hTimer
    rw [Option.isSome_iff_exists] at hRuns
    exact hItems (fault.injectorId, fault)
      ((mem_workList_iff _ _ _ _).mpr
        ⟨hFault, rfl, hRuns⟩) timer hTimer
  · rintro hFit ⟨key, fault⟩ hItem timer hTimer
    rw [mem_workList_iff] at hItem
    rcases hItem with ⟨hFault, rfl, hRuns⟩
    exact hFit fault hFault
      (Option.isSome_iff_exists.mpr hRuns) timer hTimer

/- Fitting depends on the scenario and who runs. -/
theorem SchedulesFit.of_eq
    {other : FaultController}
    (hFit : c.SchedulesFit)
    (hScenario : other.scenario = c.scenario)
    (hRuns :
      ∀ key, (other.injector? key).isSome =
        (c.injector? key).isSome) :
    other.SchedulesFit := by
  unfold SchedulesFit
  rw [hScenario]
  intro fault hFault hSome
  rw [hRuns] at hSome
  exact hFit fault hFault hSome

theorem injector?_clearScenario_isSome
    (newScenario : ScenarioConfig)
    (key : String) :
    ((clearScenario newScenario c).injector? key).isSome =
      (c.injector? key).isSome := by
  unfold clearScenario injector?
  simp only [UnorderedMap.find?_mapValues,
    Option.isSome_map]
  rfl

/- The injectors that run do not change in a reload. -/
theorem injector?_applyReload_isSome
    (newScenario : ScenarioConfig)
    (key : String) :
    ((applyReload h newScenario c).state.injector?
        key).isSome =
      (c.injector? key).isSome := by
  have hSame :=
    scheduleFaults_sameFaults h
      (registerFaults (clearScenario newScenario c))
  rw [applyReload, hSame.isSome,
    injector?_registerFaults_isSome,
    injector?_clearScenario_isSome]

/- A reload replaces what every running injector stores. -/
theorem faultConfig_applyReload
    (newScenario : ScenarioConfig)
    (key faultId : String) :
    (applyReload h newScenario c).state.faultConfig key
        faultId =
      if (c.injector? key).isSome = true then
        lastFault key faultId newScenario.faults
      else
        none := by
  have hSame :=
    scheduleFaults_sameFaults h
      (registerFaults (clearScenario newScenario c))
  have hCleared :
      (clearScenario newScenario c).faultConfig key faultId =
        none := by
    unfold faultConfig clearScenario injector?
    simp only [UnorderedMap.find?_mapValues]
    cases (FaultScheduler.clear c).injectors.find? key with
    | none => rfl
    | some injector => rfl
  rw [applyReload, hSame.faultConfig,
    faultConfig_registerFaults, hCleared, Option.or_none,
    injector?_clearScenario_isSome]
  rfl

@[simp] theorem applyReload_scenario
    (newScenario : ScenarioConfig) :
    (applyReload h newScenario c).state.scenario =
      newScenario := by
  have hScenario :=
    (scheduleFaults_scenario h
      (registerFaults (clearScenario newScenario c))).1
  rw [applyReload, hScenario, registerFaults_scenario]
  rfl

/-
  An accepted reload returns when the periods of all faults
  with a running injector fit.
-/
theorem applyReload_returned_iff
    (newScenario : ScenarioConfig) :
    (applyReload h newScenario c).returned = true ↔
      ∀ fault ∈ newScenario.faults,
        (c.injector? fault.injectorId).isSome = true →
          ∀ timer ∈
              faultTimers newScenario.initiallyActiveFaults
                fault.injectorId fault,
            DelayFits timer := by
  unfold applyReload
  rw [scheduleFaults_returned_iff_fit]
  unfold SchedulesFit
  rw [registerFaults_scenario]
  simp only [injector?_registerFaults_isSome,
    injector?_clearScenario_isSome]
  rfl

/-
  A reload of the scenario that is loaded already returns,
  since its timers could be created before.
-/
theorem applyReload_returned_of_same
    (hFit : c.SchedulesFit) :
    (applyReload h c.scenario c).returned = true :=
  (applyReload_returned_iff c.scenario).mpr hFit

------------------------------------------------------------
-- Running Controllers
------------------------------------------------------------

theorem schedulesFit_of_started
    {factory : InjectorConfig → Bool}
    {scenario : ScenarioConfig}
    (hStarted : Started h factory scenario c) :
    c.SchedulesFit := by
  rcases hStarted with ⟨steadyNow, rosNow, hDone⟩
  unfold construct at hDone
  rcases Outcome.bind_eq_done_iff.mp hDone with
    ⟨s, hSchedule, hEnd⟩
  rw [Outcome.done.injEq] at hEnd
  subst hEnd
  generalize registerFaults _ = registered at hSchedule
  have hReturned :
      (scheduleFaults h registered).returned = true := by
    rw [hSchedule]
    rfl
  have hScenario := (scheduleFaults_scenario h registered).1
  have hSame := scheduleFaults_sameFaults h registered
  rw [hSchedule, Outcome.state_done] at hScenario hSame
  exact (scheduleFaults_returned_iff_fit.mp
    hReturned).of_eq hScenario hSame.isSome

theorem SchedulesFit.nodeStep
    {a : Action}
    {after : FaultController}
    (hFit : c.SchedulesFit)
    (hStep : c.nodeStep h a = some after) :
    after.SchedulesFit := by
  unfold FaultController.nodeStep at hStep
  split at hStep
  · cases hStep
  · rename_i hNoThrow
    refine step_keeps ?_ ?_ ?_ ?_ ?_ ?_ ?_ hFit hStep
    · intro elapsed rosNow _
      exact hFit.of_eq rfl fun _ => rfl
    · intro n e key fault _ _ _
      exact hFit.of_eq rfl
        (injector?_modifyInjector_isSome _ key _)
    · intro n e key fault _ _ _
      exact hFit.of_eq rfl
        (injector?_modifyInjector_isSome _ key _)
    · intro request target _ _
      exact hFit.of_eq rfl
        (injector?_modifyInjector_isSome _ target.key _)
    · intro request target field updated _ _ _ _ _
      exact hFit.of_eq rfl
        (injector?_modifyInjector_isSome _ target.key _)
    · intro content newScenario hAction hCheck
      subst hAction
      have hReturned :
          (applyReload h newScenario c).returned = true := by
        simpa [throws, reloadScenario, hCheck] using hNoThrow
      have hNew :=
        (applyReload_returned_iff newScenario).mp hReturned
      unfold SchedulesFit
      rw [applyReload_scenario]
      intro fault hFault hRuns
      rw [injector?_applyReload_isSome] at hRuns
      exact hNew fault hFault hRuns
    · intro subscription _ _
      exact hFit.of_eq rfl fun _ => rfl

/- A running node has created all timers of its scenario. -/
theorem schedulesFit_of_run
    {factory : InjectorConfig → Bool}
    {scenario : ScenarioConfig}
    {start : FaultController}
    {actions : List Action}
    (hStarted : Started h factory scenario start)
    (hRun : run (nodeStep h) start actions = some c) :
    c.SchedulesFit := by
  apply run_invariant (P := fun _ _ => True) ?_
    (schedulesFit_of_started hStarted)
    (along_of_forall (fun _ _ => True.intro) start actions)
    hRun
  intro s a t hFit _ hStep
  exact hFit.nodeStep hStep

end Returns

------------------------------------------------------------
-- What Scheduling Adds Stays
------------------------------------------------------------

/- Timers stay held and live, and active faults active. -/
structure Grows (s t : FaultController) : Prop where
  steadyNow : t.node.steadyNow = s.node.steadyNow
  scenario : t.scenario = s.scenario
  entities : s.node.entities <+: t.node.entities
  cells : s.node.heap.cells ⊆ t.node.heap.cells
  timers : s.timers ⊆ t.timers
  active :
    ∀ key faultId, s.isActive key faultId = true →
      t.isActive key faultId = true

theorem Grows.refl (s : FaultController) : Grows s s :=
  ⟨rfl, rfl, List.prefix_refl _, fun _ h => h,
    fun _ h => h, fun _ _ h => h⟩

theorem Grows.trans
    {s t u : FaultController}
    (hFirst : Grows s t)
    (hSecond : Grows t u) :
    Grows s u where
  steadyNow := hSecond.steadyNow.trans hFirst.steadyNow
  scenario := hSecond.scenario.trans hFirst.scenario
  entities := hFirst.entities.trans hSecond.entities
  cells := fun _ h => hSecond.cells (hFirst.cells h)
  timers := fun _ h => hSecond.timers (hFirst.timers h)
  active := fun key faultId h =>
    hSecond.active key faultId (hFirst.active key faultId h)

theorem grows_addTimer
    (callback : Callback)
    (delay : Int)
    (c : FaultController) :
    Grows c (addTimer callback delay c) where
  steadyNow := rfl
  scenario := rfl
  entities := List.prefix_append _ _
  cells := fun _ h =>
    List.mem_append_left _ (List.mem_append_left _ h)
  timers := fun _ h => List.mem_append_left _ h
  active := fun _ _ h => h

theorem grows_activateNow
    (key : String)
    (fault : FaultConfig)
    (c : FaultController) :
    Grows c (activateNow key fault c) where
  steadyNow := rfl
  scenario := rfl
  entities := List.prefix_refl _
  cells := fun _ h => h
  timers := fun _ h => h
  active := by
    intro otherKey faultId hActive
    change
      (c.modifyInjector key _).isActive otherKey faultId =
        true
    unfold FaultInjectorBase.activateFault
    rw [isActive_setActive]
    split
    · rfl
    · exact hActive

/- A startup activation sets the flag of a known fault. -/
theorem isActive_activateNow
    {key : String}
    {fault : FaultConfig}
    {c : FaultController}
    (hHas : c.hasFault key fault.id = true) :
    (activateNow key fault c).isActive key fault.id =
      true := by
  change
    (c.modifyInjector key _).isActive key fault.id = true
  unfold FaultInjectorBase.activateFault
  rw [isActive_setActive, if_pos ⟨rfl, rfl, hHas⟩]

theorem hasTimer_addTimer
    (callback : Callback)
    (delay : Int)
    (c : FaultController) :
    (addTimer callback delay c).HasTimer
      (callback, delay) := by
  refine ⟨c.node.entities.length, ?_, ?_⟩
  · exact List.mem_append_right _ (by simp)
  · refine ⟨_, List.getElem?_concat_length, rfl, rfl, rfl,
      rfl, ?_⟩
    exact (CallbackNode.selfHeld_addWallTimer _ _ _ _).live

theorem HasTimer.grows
    {s t : FaultController}
    {timer : Callback × Int}
    (hTimer : s.HasTimer timer)
    (hGrows : Grows s t) :
    t.HasTimer timer := by
  rcases hTimer with
    ⟨n, hHeld, e, hEntity, hCallback, hPeriod, hCreated,
      hPending, cell, hCell, hAddress⟩
  have hStill : t.node.entities[n]? = some e := by
    rcases hGrows.entities with ⟨more, hMore⟩
    rw [← hMore, List.getElem?_append_left
      (List.getElem?_eq_some_iff.mp hEntity).1]
    exact hEntity
  refine ⟨n, hGrows.timers hHeld, e, hStill, hCallback,
    hPeriod, ?_, hPending, cell, hGrows.cells hCell,
    hAddress⟩
  rw [hGrows.steadyNow]
  exact hCreated

------------------------------------------------------------
-- A Completed Loop
------------------------------------------------------------

/- Scheduling one fault creates its timers. -/
theorem scheduleFault_done
    {initiallyActiveFaults : List String}
    {key : String}
    {fault : FaultConfig}
    {s t : FaultController}
    (hDone :
      scheduleFault initiallyActiveFaults key fault s =
        .done t) :
    Grows s t ∧
      (isInitiallyActive fault initiallyActiveFaults = true →
        s.hasFault key fault.id = true →
          t.isActive key fault.id = true) ∧
        ∀ timer ∈
            faultTimers initiallyActiveFaults key fault,
          t.HasTimer timer := by
  rw [scheduleFault_eq] at hDone
  have hActivated :
      Grows s
        (startupActivation initiallyActiveFaults key fault
          s) := by
    unfold startupActivation
    split
    · exact grows_activateNow key fault s
    · exact Grows.refl s
  have hTimers :
      Grows
          (startupActivation initiallyActiveFaults key fault
            s) t ∧
        ∀ timer ∈
            faultTimers initiallyActiveFaults key fault,
          t.HasTimer timer := by
    apply Outcome.forEach_done
      (I := fun created u =>
        Grows
            (startupActivation initiallyActiveFaults key
              fault s) u ∧
          ∀ timer ∈ created, u.HasTimer timer)
      ?_ ⟨Grows.refl _, by simp⟩ hDone
    rintro created ⟨callback, delay⟩ u v ⟨hGrown, hHas⟩ _
      hRound
    rw [scheduleTimer_eq] at hRound
    split at hRound
    · rw [Outcome.done.injEq] at hRound
      subst hRound
      have hNext := grows_addTimer callback delay u
      refine ⟨hGrown.trans hNext, ?_⟩
      intro timer hMember
      rcases List.mem_append.mp hMember with hOld | hNew
      · exact (hHas timer hOld).grows hNext
      · rw [List.mem_singleton] at hNew
        subst hNew
        exact hasTimer_addTimer callback delay u
    · cases hRound
  refine ⟨hActivated.trans hTimers.1, ?_, hTimers.2⟩
  intro hActive hHas
  apply hTimers.1.active
  unfold startupActivation
  rw [if_pos hActive]
  exact isActive_activateNow hHas

theorem scheduleFault_sameFaults
    (initiallyActiveFaults : List String)
    (key : String)
    (fault : FaultConfig)
    (s : FaultController) :
    SameFaults
      (scheduleFault initiallyActiveFaults key fault s).state
      s := by
  rw [scheduleFault_eq]
  apply Outcome.forEach_state (P := fun u => SameFaults u s)
  · rintro ⟨callback, delay⟩ _ u hSame
    exact scheduleTimer_state
      (P := fun u => SameFaults u s) hSame fun _ => hSame
  · unfold startupActivation
    split
    · exact sameFaults_setActive s key fault.id true
    · exact SameFaults.refl s

/- The item is activated at startup and has its timers. -/
def Covered
    (s t : FaultController)
    (item : String × FaultConfig) : Prop :=
  (isInitiallyActive item.2
      s.scenario.initiallyActiveFaults = true →
    s.hasFault item.1 item.2.id = true →
      t.isActive item.1 item.2.id = true) ∧
    ∀ timer ∈
        faultTimers s.scenario.initiallyActiveFaults item.1
          item.2,
      t.HasTimer timer

theorem Covered.grows
    {s t u : FaultController}
    {item : String × FaultConfig}
    (hCovered : Covered s t item)
    (hGrows : Grows t u) :
    Covered s u item := by
  rcases hCovered with ⟨hActive, hTimers⟩
  constructor
  · exact fun hInit hHas =>
      hGrows.active _ _ (hActive hInit hHas)
  · exact fun timer hTimer =>
      (hTimers timer hTimer).grows hGrows

/- A completed schedule covers the whole work list. -/
theorem scheduleFaults_done
    {h : HashOrder String}
    {s t : FaultController}
    (hDone : scheduleFaults h s = .done t)
    {key : String}
    {fault : FaultConfig}
    (hItem : (key, fault) ∈ s.workList h) :
    (isInitiallyActive fault
        s.scenario.initiallyActiveFaults = true →
      s.hasFault key fault.id = true →
        t.isActive key fault.id = true) ∧
      ∀ timer ∈
          faultTimers s.scenario.initiallyActiveFaults key
            fault,
        t.HasTimer timer := by
  rw [scheduleFaults_eq_forEach] at hDone
  have hCovered :
      SameFaults t s ∧
        ∀ item ∈ s.workList h, Covered s t item := by
    apply Outcome.forEach_done
      (I := fun scheduled u =>
        SameFaults u s ∧ ∀ item ∈ scheduled, Covered s u item)
      ?_ ⟨SameFaults.refl s, by simp⟩ hDone
    rintro scheduled ⟨k, f⟩ u v ⟨hSame, hScheduled⟩ _ hRound
    have hSameNext :=
      scheduleFault_sameFaults
        s.scenario.initiallyActiveFaults k f u
    rw [hRound] at hSameNext
    rcases scheduleFault_done hRound with
      ⟨hGrows, hActive, hTimers⟩
    refine ⟨hSameNext.trans hSame, ?_⟩
    intro item hMember
    rcases List.mem_append.mp hMember with hOld | hNew
    · exact (hScheduled item hOld).grows hGrows
    · rw [List.mem_singleton] at hNew
      subst hNew
      refine ⟨fun hInit hHas => hActive hInit ?_, hTimers⟩
      rw [hSame.hasFault]
      exact hHas
  exact hCovered.2 (key, fault) hItem

/- Every timer the scheduler holds has a period that fits. -/
def TimersFit (c : FaultController) : Prop :=
  ∀ n ∈ c.timers, ∃ e period,
    c.node.entities[n]? = some e ∧
      e.period = some period ∧
        CallbackNode.periodFits period = true

theorem timersFit_applyReload
    {h : HashOrder String}
    {newScenario : ScenarioConfig}
    {c : FaultController} :
    (applyReload h newScenario c).state.TimersFit := by
  apply applyReload_state
  · exact fun _ _ _ hState => hState
  · exact fun _ _ _ _ hState => hState
  · intro fault _ callback delay _ hFits s hState n hHeld
    rcases List.mem_append.mp hHeld with hOld | hNew
    · rcases hState n hOld with
        ⟨e, period, hEntity, hPeriod⟩
      refine ⟨e, period, ?_, hPeriod⟩
      change (s.node.entities ++ _)[n]? = some e
      rw [List.getElem?_append_left
        (List.getElem?_eq_some_iff.mp hEntity).1]
      exact hEntity
    · rw [List.mem_singleton] at hNew
      subst hNew
      exact ⟨_, _, List.getElem?_concat_length, rfl, hFits⟩
  · intro n hHeld
    cases hHeld

theorem delayFits_of_hasTimer
    {c : FaultController}
    {timer : Callback × Int}
    (hFit : c.TimersFit)
    (hTimer : c.HasTimer timer) :
    DelayFits timer := by
  rcases hTimer with ⟨n, hHeld, e, hEntity, _, hPeriod, _⟩
  rcases hFit n hHeld with
    ⟨other, period, hOther, hSome, hFits⟩
  rw [hEntity, Option.some.injEq] at hOther
  subst hOther
  rw [hPeriod, Option.some.injEq] at hSome
  subst hSome
  exact hFits

------------------------------------------------------------
-- All Or Nothing
------------------------------------------------------------

section AllOrNothing

variable {h : HashOrder String}
variable {c : FaultController}

/- The checks pass exactly when each of them does. -/
theorem checkReload_eq_ok_iff
    {content : Except String ScenarioConfig}
    {newScenario : ScenarioConfig} :
    c.checkReload h content = .ok newScenario ↔
      content = .ok newScenario ∧
        (validateScenario h newScenario).ok = true ∧
          (c.validateReloadCompatible newScenario).success =
            true := by
  unfold checkReload
  cases content with
  | error what => simp
  | ok scenario =>
      by_cases hValid :
          (validateScenario h scenario).ok = true
      · by_cases hCompatible :
            (c.validateReloadCompatible scenario).success =
              true
        · simp only [hValid, hCompatible, not_true_eq_false,
            if_false, Except.ok.injEq]
          constructor
          · rintro rfl
            exact ⟨rfl, hValid, hCompatible⟩
          · exact fun hAll => hAll.1
        · simp only [hValid, hCompatible, not_true_eq_false,
            if_false, not_false_eq_true, if_true,
            reduceCtorEq, Except.ok.injEq, false_iff]
          rintro ⟨rfl, _, hSuccess⟩
          exact hCompatible hSuccess
      · simp only [hValid, not_false_eq_true, if_true,
          reduceCtorEq, Except.ok.injEq, false_iff]
        rintro ⟨rfl, hOk, _⟩
        exact hValid hOk

/- A reload whose checks fail changes nothing. -/
theorem allOrNothing_of_rejected
    {content : Except String ScenarioConfig}
    {result : ReloadScenarioResult}
    (hCheck : c.checkReload h content = .error result) :
    AllOrNothing h content c := by
  right
  have hState : c.reloadScenario h content = .done c := by
    simp [reloadScenario, hCheck]
  have hResult :
      c.reloadScenarioResult h content = some result := by
    simp [reloadScenarioResult, hCheck]
  constructor
  · intro other hOther
    rw [hResult, Option.some.injEq] at hOther
    subst hOther
    unfold checkReload at hCheck
    split at hCheck
    · rw [Except.error.injEq] at hCheck
      rw [← hCheck]
    · simp only at hCheck
      split at hCheck
      · rw [Except.error.injEq] at hCheck
        rw [← hCheck]
      · split at hCheck
        · rename_i hFailed
          rw [Except.error.injEq] at hCheck
          rw [← hCheck]
          simpa using hFailed
        · cases hCheck
  · rw [hState]
    exact ⟨rfl, rfl, rfl, rfl, rfl⟩

/- Where all periods fit the intended timers are created. -/
theorem faultTimers_eq_intended
    {newScenario : ScenarioConfig}
    (hOk : (validateScenario h newScenario).ok = true)
    (hFits : c.ScenarioFits newScenario)
    {fault : FaultConfig}
    (hFault : fault ∈ newScenario.faults) :
    faultTimers newScenario.initiallyActiveFaults
        fault.injectorId fault =
      intendedTimers newScenario.initiallyActiveFaults
        fault.injectorId fault := by
  have hNonneg := schedule_nonneg_of_ok hOk hFault
  exact faultTimers_eq_of_fits hNonneg.1 hNonneg.2
    (hFits fault hFault).2

theorem applyReload_returned_of_fits
    {newScenario : ScenarioConfig}
    (hOk : (validateScenario h newScenario).ok = true)
    (hFits : c.ScenarioFits newScenario) :
    (applyReload h newScenario c).returned = true := by
  rw [applyReload_returned_iff]
  intro fault hFault _
  rw [faultTimers_eq_intended hOk hFits hFault]
  exact (hFits fault hFault).2

/- A returned reload installs a scenario that fits. -/
theorem installed_applyReload
    {newScenario : ScenarioConfig}
    (hOk : (validateScenario h newScenario).ok = true)
    (hFits : c.ScenarioFits newScenario) :
    (applyReload h newScenario c).state.Installed
      newScenario := by
  refine ⟨applyReload_scenario newScenario, ?_⟩
  intro fault hFault
  let registered :=
    registerFaults (clearScenario newScenario c)
  have hScenario : registered.scenario = newScenario :=
    registerFaults_scenario _
  have hRuns :
      ((clearScenario newScenario c).injector?
          fault.injectorId).isSome =
        true := by
    rw [injector?_clearScenario_isSome]
    exact (hFits fault hFault).1
  have hHas :
      registered.hasFault fault.injectorId fault.id = true :=
    hasFault_registerFaults_of_mem hFault hRuns
  have hItem :
      (fault.injectorId, fault) ∈ registered.workList h :=
    mem_workList_registerFaults h hFault hRuns
  have hDone :
      scheduleFaults h registered =
        .done (applyReload h newScenario c).state :=
    Outcome.eq_done_of_returned
      (applyReload_returned_of_fits hOk hFits)
  have hAfter := scheduleFaults_sameFaults h registered
  rw [hDone, Outcome.state_done] at hAfter
  have hCovered := scheduleFaults_done hDone hItem
  rw [hScenario] at hCovered
  constructor
  · rw [hAfter.hasFault]
    exact hHas
  · unfold Scheduled
    rw [applyReload_scenario]
    refine ⟨fun hInit => hCovered.1 hInit hHas, ?_⟩
    rw [← faultTimers_eq_intended hOk hFits hFault]
    exact hCovered.2

/- A scenario that is installed fits. -/
theorem scenarioFits_of_installed
    {newScenario : ScenarioConfig}
    (hInstalled :
      (applyReload h newScenario c).state.Installed
        newScenario) :
    c.ScenarioFits newScenario := by
  intro fault hFault
  rcases hInstalled.2 fault hFault with ⟨hHas, hScheduled⟩
  constructor
  · unfold hasFault at hHas
    rw [← injector?_applyReload_isSome (h := h) newScenario]
    cases hInjector :
        (applyReload h newScenario c).state.injector?
          fault.injectorId with
    | none => simp [hInjector] at hHas
    | some injector => rfl
  · intro timer hTimer
    have hIntended := hScheduled.2
    rw [applyReload_scenario] at hIntended
    exact delayFits_of_hasTimer timersFit_applyReload
      (hIntended timer hTimer)

/- A reload of a fitting node that changes nothing returns. -/
theorem applyReload_returned_of_unchanged
    {newScenario : ScenarioConfig}
    (hFit : c.SchedulesFit)
    (hSame :
      SameRuntime c (applyReload h newScenario c).state) :
    (applyReload h newScenario c).returned = true := by
  have hScenario : newScenario = c.scenario := by
    rw [← applyReload_scenario (h := h) (c := c) newScenario]
    exact hSame.1
  rw [hScenario]
  exact applyReload_returned_of_same hFit

/-
  For every state of a running node and every content of the
  file, the reload is all-or-nothing exactly when the new
  scenario is rejected or fits.
-/
theorem reload_all_or_nothing_iff
    {factory : InjectorConfig → Bool}
    {scenario : ScenarioConfig}
    {start : FaultController}
    {actions : List Action}
    (hStarted : Started h factory scenario start)
    (hRun : run (nodeStep h) start actions = some c)
    (content : Except String ScenarioConfig) :
    AllOrNothing h content c ↔ ReloadFits h content c := by
  have hFit := schedulesFit_of_run hStarted hRun
  cases hCheck : c.checkReload h content with
  | error result =>
      refine iff_of_true (allOrNothing_of_rejected hCheck) ?_
      intro newScenario hContent hOk hCompatible
      have hPassed :=
        checkReload_eq_ok_iff.mpr ⟨hContent, hOk, hCompatible⟩
      rw [hCheck] at hPassed
      cases hPassed
  | ok newScenario =>
      rcases checkReload_eq_ok_iff.mp hCheck with
        ⟨hContent, hOk, hCompatible⟩
      have hOnly :
          ∀ other, content = .ok other → other = newScenario :=
        fun _ hOther => Except.ok.inj (hOther.symm.trans hContent)
      have hState :
          c.reloadScenario h content =
            applyReload h newScenario c := by
        simp [reloadScenario, hCheck]
      have hResult :
          c.reloadScenarioResult h content =
            if (applyReload h newScenario c).returned then
              some ⟨true, "Scenario reloaded successfully"⟩
            else
              none := by
        simp [reloadScenarioResult, hCheck]
      constructor
      · rintro (⟨other, message, hOther, _, hInstalled⟩ |
          ⟨hFailure, hSame⟩)
        · rintro third hThird _ _
          rw [hOnly other hOther, hState] at hInstalled
          rw [hOnly third hThird]
          exact scenarioFits_of_installed hInstalled
        · -- a state left unchanged holds the new scenario
          exfalso
          rw [hState] at hSame
          rw [hResult,
            if_pos
              (applyReload_returned_of_unchanged hFit hSame)]
            at hFailure
          cases hFailure _ rfl
      · intro hReload
        have hFits := hReload newScenario hContent hOk
          hCompatible
        left
        refine ⟨newScenario, "Scenario reloaded successfully",
          hContent, ?_, ?_⟩
        · rw [hResult,
            if_pos (applyReload_returned_of_fits hOk hFits)]
        · rw [hState]
          exact installed_applyReload hOk hFits

end AllOrNothing

end FaultController

------------------------------------------------------------
-- A Start Time Beyond The Timer's Range
------------------------------------------------------------

namespace FaultController.LongStart

open Transition

/- One fault with a start time in milliseconds. -/
def scenario (start : Option Int) : ScenarioConfig where
  injectors :=
    [{ id := "base", type := "odom",
       topic := some
        { inputTopic := "odom"
          outputTopic := "odom_faulty" } }]
  faults :=
    [{ id := "bias", injectorId := "base", start := start }]

def started : FaultController :=
  (construct .insertion (fun _ => true) {} 0
    (scenario none)).state

/-
  A start after ten billion seconds is accepted, but the
  reload throws after it has cleared the old faults.
-/
theorem not_all_or_nothing :
    Started .insertion (fun _ => true) (scenario none)
        started ∧
      (validateScenario .insertion
        (scenario (some (10 ^ 13)))).ok = true ∧
      (started.reloadScenario .insertion
        (.ok (scenario (some (10 ^ 13))))).returned =
          false ∧
      ¬ AllOrNothing .insertion
          (.ok (scenario (some (10 ^ 13)))) started := by
  refine ⟨⟨0, 0, by rfl⟩, by decide, by decide, ?_⟩
  have hThrows :
      started.reloadScenarioResult .insertion
        (.ok (scenario (some (10 ^ 13)))) = none := by
    decide
  have hReplaced :
      (started.reloadScenario .insertion
        (.ok (scenario (some (10 ^ 13))))).state.scenario ≠
          started.scenario := by
    decide
  rintro (⟨other, message, _, hSuccess, _⟩ | ⟨_, hSame⟩)
  · rw [hThrows] at hSuccess
    cases hSuccess
  · exact hReplaced hSame.1

/- A start after five seconds fits. -/
theorem all_or_nothing_of_five_seconds :
    AllOrNothing .insertion
      (.ok (scenario (some 5000))) started := by
  have hStarted :
      Started .insertion (fun _ => true) (scenario none)
        started :=
    ⟨0, 0, by rfl⟩
  have hRun :
      run (nodeStep .insertion) started [] = some started :=
    rfl
  apply (reload_all_or_nothing_iff hStarted hRun _).mpr
  intro newScenario hContent _ _
  rw [Except.ok.injEq] at hContent
  subst hContent
  intro fault hFault
  rw [scenario, List.mem_singleton] at hFault
  subst hFault
  refine ⟨by decide, ?_⟩
  intro timer hTimer
  rw [FaultScheduler.delayFits_iff]
  revert timer
  decide

end FaultController.LongStart
