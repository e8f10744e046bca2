import FaultInjection.Core.Steps

/-
  How long the scheduler's timers live.

  Clearing the scheduler drops its references, but the
  callback of a timer captures a cell that holds the timer.
  A timer that has not run yet therefore stays ready to run,
  whatever scenario is loaded by then.

  Key definitions include:
    * `FaultController.FromLoadedScenario`
    * `FaultController.ActsForLoadedScenario`
    * `FaultController.TimersHaveRun`

  Key theorems include:
    * `FaultController.ready_of_pending`
    * `FaultController.stale_timer_acts`
    * `FaultController.replaced_schedule_never_acts`
-/

------------------------------------------------------------
-- Stale Timers
------------------------------------------------------------

namespace FaultController

open FaultScheduler FaultServiceManager Transition

/-
  The timer was created for the scenario now loaded, for one
  of its faults.
-/
def FromLoadedScenario
    (c : FaultController)
    (e : CallbackEntity Callback) : Prop :=
  e.generation = c.generation ∧
    ∃ fault ∈ c.scenario.faults,
      e.callback = .startFault fault.injectorId fault ∨
        e.callback = .stopFault fault.injectorId fault

/- The action runs a timer of the loaded scenario. -/
def RunsLoadedTimer
    (c : FaultController)
    (a : Action) : Prop :=
  ∃ n e, a = .callback n ∧ c.node.ready n = some e ∧
    c.FromLoadedScenario e

/-
  A timer that runs was created for the loaded scenario, and
  only such a timer publishes events of source `scheduled`.
-/
def ActsForLoadedScenario
    (h : HashOrder String)
    (c : FaultController)
    (a : Action) : Prop :=
  (∀ n e, a = .callback n → c.node.ready n = some e →
    e.callback.isScheduled = true →
      c.FromLoadedScenario e) ∧
    ∀ after new, c.step h a = some after →
      after.recorder.events = c.recorder.events ++ new →
        ∀ record ∈ new, record.source = "scheduled" →
          c.RunsLoadedTimer a

/- Every timer the scheduler has created so far has run. -/
def TimersHaveRun (c : FaultController) : Prop :=
  ∀ e ∈ c.node.entities, e.callback.isScheduled = true →
    e.cancelled = true

instance (c : FaultController) : Decidable c.TimersHaveRun := by
  unfold TimersHaveRun
  infer_instance

/- A reload that passes its checks finds no timer pending. -/
def QuietReload
    (h : HashOrder String)
    (c : FaultController)
    (a : Action) : Prop :=
  ∀ content newScenario, a = .reloadScenario content →
    c.checkReload h content = .ok newScenario →
      c.TimersHaveRun

------------------------------------------------------------
-- Pending Timers Stay Ready
------------------------------------------------------------

/-
  Each timer of the scheduler holds itself, and none is from
  a later load.
-/
def TimersPersist (c : FaultController) : Prop :=
  ∀ n e, c.node.entities[n]? = some e →
    e.callback.isScheduled = true →
      c.node.SelfHeld n ∧ e.generation ≤ c.generation

section Entities

variable {c : FaultController}

theorem TimersPersist.createMember
    (hPersist : c.TimersPersist)
    (m : Member) :
    (c.createMember m).TimersPersist := by
  intro n e hEntity hScheduled
  change (c.node.entities ++ _)[n]? = some e at hEntity
  rw [List.getElem?_append] at hEntity
  split at hEntity
  · rcases hPersist n e hEntity hScheduled with
      ⟨hCells, hGeneration⟩
    exact
      ⟨⟨List.mem_append_left _ hCells.1,
          List.mem_append_left _ hCells.2⟩,
        hGeneration⟩
  · have hMember :=
      List.mem_of_getElem? hEntity
    rw [List.mem_singleton] at hMember
    subst hMember
    cases hScheduled

theorem TimersPersist.addTimer
    (hPersist : c.TimersPersist)
    (callback : Callback)
    (delay : Int) :
    (addTimer callback delay c).TimersPersist := by
  intro n e hEntity hScheduled
  change (c.node.entities ++ _)[n]? = some e at hEntity
  by_cases hOld : n < c.node.entities.length
  · rw [List.getElem?_append_left hOld] at hEntity
    rcases hPersist n e hEntity hScheduled with
      ⟨hCells, hGeneration⟩
    exact
      ⟨⟨List.mem_append_left _
            (List.mem_append_left _ hCells.1),
          List.mem_append_left _
            (List.mem_append_left _ hCells.2)⟩,
        hGeneration⟩
  · have hLength := (List.getElem?_eq_some_iff.mp hEntity).1
    have hNew : n = c.node.entities.length := by
      simp only [List.length_append,
        List.length_singleton] at hLength
      omega
    subst hNew
    rw [List.getElem?_concat_length,
      Option.some.injEq] at hEntity
    subst hEntity
    exact ⟨CallbackNode.selfHeld_addWallTimer _ _ _ _,
      Nat.le_refl _⟩

theorem TimersPersist.of_node_eq
    {other : FaultController}
    (hPersist : c.TimersPersist)
    (hNode : other.node = c.node)
    (hGeneration : other.generation = c.generation) :
    other.TimersPersist := by
  unfold TimersPersist
  rw [hNode, hGeneration]
  exact hPersist

theorem TimersPersist.cancel
    (hPersist : c.TimersPersist)
    (n : Nat)
    {other : FaultController}
    (hNode : other.node = c.node.cancel n)
    (hGeneration : other.generation = c.generation) :
    other.TimersPersist := by
  intro m e hEntity hScheduled
  rw [hNode, CallbackNode.cancel_entities,
    Option.map_eq_some_iff] at hEntity
  rcases hEntity with ⟨old, hOld, rfl⟩
  have hBefore := hPersist m old hOld (by
    split at hScheduled
    · exact hScheduled
    · exact hScheduled)
  unfold CallbackNode.SelfHeld at hBefore ⊢
  rw [hNode, hGeneration]
  refine ⟨hBefore.1, ?_⟩
  split
  · exact hBefore.2
  · exact hBefore.2

end Entities

/- What holds itself survives clearing the scheduler. -/
theorem TimersPersist.clearScenario
    {c : FaultController}
    (hPersist : c.TimersPersist)
    (newScenario : ScenarioConfig) :
    (clearScenario newScenario c).TimersPersist := by
  intro n e hEntity hScheduled
  rcases hPersist n e hEntity hScheduled with
    ⟨hSelf, hGeneration⟩
  exact ⟨hSelf.release .scheduler,
    Nat.le_succ_of_le hGeneration⟩

section HoldThemselves

variable {h : HashOrder String}
variable {c : FaultController}

theorem TimersPersist.applyReload
    (hPersist : c.TimersPersist)
    (newScenario : ScenarioConfig) :
    (applyReload h newScenario c).state.TimersPersist
      := by
  apply applyReload_state
  · intro fault _ s hState
    exact hState.of_node_eq rfl rfl
  · intro fault _ _ s hState
    exact hState.of_node_eq rfl rfl
  · intro fault _ callback delay _ _ s hState
    exact hState.addTimer callback delay
  · exact hPersist.clearScenario newScenario

theorem TimersPersist.step
    {a : Action}
    {after : FaultController}
    (hPersist : c.TimersPersist)
    (hStep : c.step h a = some after) :
    after.TimersPersist := by
  refine step_keeps ?_ ?_ ?_ ?_ ?_ ?_ ?_ hPersist hStep
  · intro elapsed rosNow _ n e hEntity hScheduled
    exact hPersist n e hEntity hScheduled
  · intro n e key fault _ _ _
    exact hPersist.cancel n rfl rfl
  · intro n e key fault _ _ _
    exact hPersist.cancel n rfl rfl
  · intro request target _ _
    exact hPersist.of_node_eq rfl rfl
  · intro request target field updated _ _ _ _ _
    exact hPersist.of_node_eq rfl rfl
  · intro content newScenario _ _
    exact hPersist.applyReload newScenario
  · intro subscription _ _
    exact hPersist.of_node_eq rfl rfl

theorem timersPersist_of_started
    {factory : InjectorConfig → Bool}
    {scenario : ScenarioConfig}
    (hStarted : Started h factory scenario c) :
    c.TimersPersist := by
  refine started_state ?_ ?_ ?_ ?_ ?_ ?_ hStarted
  · intro m s hState
    exact hState.createMember m
  · intro config _ s hState
    exact hState.of_node_eq rfl rfl
  · intro fault _ s hState
    exact hState.of_node_eq rfl rfl
  · intro fault _ _ s hState
    exact hState.of_node_eq rfl rfl
  · intro fault _ callback delay _ _ s hState
    exact hState.addTimer callback delay
  · intro steadyNow rosNow n e hEntity _
    simp at hEntity

/-
  A timer that has not run is ready as soon as it is due,
  whether or not the scheduler still holds it.
-/
theorem ready_of_pending
    (hPersist : c.TimersPersist)
    {n : Nat}
    {e : CallbackEntity Callback}
    (hEntity : c.node.entities[n]? = some e)
    (hScheduled : e.callback.isScheduled = true)
    (hPending : e.cancelled = false)
    (hDue : e.due c.node.steadyNow = true) :
    c.node.ready n = some e := by
  rw [CallbackNode.ready_eq_some_iff]
  exact ⟨hEntity, hPending, hDue,
    (hPersist n e hEntity hScheduled).1.live⟩

/- A timer that has not run is ready after some time. -/
theorem ready_after_wait
    (hPersist : c.TimersPersist)
    {n : Nat}
    {e : CallbackEntity Callback}
    (hEntity : c.node.entities[n]? = some e)
    (hScheduled : e.callback.isScheduled = true)
    (hPending : e.cancelled = false) :
    ∃ elapsed,
      (c.node.advance elapsed 0).ready n = some e := by
  let elapsed : Nat :=
    e.dueAt.elim 0 fun time =>
      (time - c.node.steadyNow).toNat
  let later : FaultController :=
    { c with node := c.node.advance elapsed 0 }
  have hPersistLater : later.TimersPersist :=
    fun m e' hE hS => hPersist m e' hE hS
  have hDue : e.due later.node.steadyNow = true := by
    change
      e.due (c.node.steadyNow + (elapsed : Int)) = true
    unfold CallbackEntity.due
    cases hTime : e.dueAt with
    | none => rfl
    | some time =>
        have hElapsed :
            elapsed = (time - c.node.steadyNow).toNat := by
          simp [elapsed, hTime]
        simp only [Option.all_some, decide_eq_true_eq]
        omega
  have hReady : later.node.ready n = some e :=
    ready_of_pending hPersistLater hEntity hScheduled hPending
      hDue
  exact ⟨elapsed, hReady⟩

end HoldThemselves

------------------------------------------------------------
-- Runs With Quiet Reloads
------------------------------------------------------------

/- Each timer has run or belongs to the loaded scenario. -/
def PendingAreLoaded (c : FaultController) : Prop :=
  ∀ e ∈ c.node.entities, e.callback.isScheduled = true →
    e.cancelled = true ∨ c.FromLoadedScenario e

section Quiet

variable {h : HashOrder String}
variable {c : FaultController}

/- The invariant depends on three fields of the state. -/
theorem PendingAreLoaded.of_eq
    {other : FaultController}
    (hPending : c.PendingAreLoaded)
    (hNode : other.node.entities = c.node.entities)
    (hScenario : other.scenario = c.scenario)
    (hGeneration : other.generation = c.generation) :
    other.PendingAreLoaded := by
  unfold PendingAreLoaded FromLoadedScenario
  rw [hNode, hScenario, hGeneration]
  exact hPending

theorem PendingAreLoaded.createMember
    (hPending : c.PendingAreLoaded)
    (m : Member) :
    (c.createMember m).PendingAreLoaded := by
  intro e hEntity hScheduled
  rcases List.mem_append.mp hEntity with hOld | hNew
  · exact hPending e hOld hScheduled
  · rw [List.mem_singleton] at hNew
    subst hNew
    cases hScheduled

/- A timer of a fault of the loaded scenario is no exception. -/
theorem PendingAreLoaded.addTimer
    {fault : FaultConfig}
    {callback : Callback}
    {delay : Int}
    {initiallyActiveFaults : List String}
    (hPending : c.PendingAreLoaded)
    (hFault : fault ∈ c.scenario.faults)
    (hTimer :
      (callback, delay) ∈
        faultTimers initiallyActiveFaults fault.injectorId
          fault) :
    (addTimer callback delay c).PendingAreLoaded := by
  intro e hEntity hScheduled
  rcases List.mem_append.mp hEntity with hOld | hNew
  · exact hPending e hOld hScheduled
  · rw [List.mem_singleton] at hNew
    subst hNew
    exact Or.inr
      ⟨rfl, fault, hFault, callback_of_mem_faultTimers hTimer⟩

theorem PendingAreLoaded.cancel
    {other : FaultController}
    {n : Nat}
    (hPending : c.PendingAreLoaded)
    (hNode : other.node = c.node.cancel n)
    (hScenario : other.scenario = c.scenario)
    (hGeneration : other.generation = c.generation) :
    other.PendingAreLoaded := by
  intro e hEntity hScheduled
  rw [hNode] at hEntity
  rcases CallbackNode.mem_cancel_entities hEntity with
    ⟨old, hOld, hKept | hCancelled⟩
  · subst hKept
    have hBefore := hPending e hOld hScheduled
    unfold FromLoadedScenario at hBefore ⊢
    rw [hScenario, hGeneration]
    exact hBefore
  · left
    rw [hCancelled]

theorem pendingAreLoaded_applyReload
    (hRun : c.TimersHaveRun)
    (newScenario : ScenarioConfig) :
    (applyReload h newScenario c).state.PendingAreLoaded := by
  have hLoaded :
      (applyReload h newScenario c).state.PendingAreLoaded ∧
        (applyReload h newScenario c).state.scenario =
          newScenario := by
    apply applyReload_state
      (P := fun s =>
        s.PendingAreLoaded ∧ s.scenario = newScenario)
    · intro fault _ s hState
      exact ⟨hState.1.of_eq rfl rfl rfl, hState.2⟩
    · intro fault _ _ s hState
      exact ⟨hState.1.of_eq rfl rfl rfl, hState.2⟩
    · intro fault hFault callback delay hTimer _ s hState
      refine ⟨hState.1.addTimer ?_ hTimer, hState.2⟩
      rw [hState.2]
      exact hFault
    · refine ⟨?_, rfl⟩
      intro e hEntity hScheduled
      exact Or.inl (hRun e hEntity hScheduled)
  exact hLoaded.1

theorem PendingAreLoaded.step
    {a : Action}
    {after : FaultController}
    (hPending : c.PendingAreLoaded)
    (hQuiet : QuietReload h c a)
    (hStep : c.step h a = some after) :
    after.PendingAreLoaded := by
  refine step_keeps ?_ ?_ ?_ ?_ ?_ ?_ ?_ hPending hStep
  · intro elapsed rosNow _
    exact hPending.of_eq rfl rfl rfl
  · intro n e key fault _ _ _
    exact hPending.cancel (n := n) rfl rfl rfl
  · intro n e key fault _ _ _
    exact hPending.cancel (n := n) rfl rfl rfl
  · intro request target _ _
    exact hPending.of_eq rfl rfl rfl
  · intro request target field updated _ _ _ _ _
    exact hPending.of_eq rfl rfl rfl
  · intro content newScenario hAction hCheck
    have hRun := hQuiet content newScenario hAction hCheck
    exact pendingAreLoaded_applyReload hRun newScenario
  · intro subscription _ _
    exact hPending.of_eq rfl rfl rfl

theorem pendingAreLoaded_of_started
    {factory : InjectorConfig → Bool}
    {scenario : ScenarioConfig}
    (hStarted : Started h factory scenario c) :
    c.PendingAreLoaded := by
  have hState :
      c.PendingAreLoaded ∧ c.scenario = scenario := by
    refine started_state
      (P := fun s =>
        s.PendingAreLoaded ∧ s.scenario = scenario)
      ?_ ?_ ?_ ?_ ?_ ?_ hStarted
    · intro m s hState
      exact ⟨hState.1.createMember m, hState.2⟩
    · intro config _ s hState
      exact ⟨hState.1.of_eq rfl rfl rfl, hState.2⟩
    · intro fault _ s hState
      exact ⟨hState.1.of_eq rfl rfl rfl, hState.2⟩
    · intro fault _ _ s hState
      exact ⟨hState.1.of_eq rfl rfl rfl, hState.2⟩
    · intro fault hFault callback delay hTimer _ s hState
      refine ⟨hState.1.addTimer ?_ hTimer, hState.2⟩
      rw [hState.2]
      exact hFault
    · intro steadyNow rosNow
      refine ⟨?_, rfl⟩
      intro e hEntity
      simp at hEntity
  exact hState.1

/- No event of a reload has the source `scheduled`. -/
theorem source_of_applyReload
    (newScenario : ScenarioConfig) :
    ∃ new,
      (applyReload h newScenario c).state.recorder.events =
          c.recorder.events ++ new ∧
        ∀ record ∈ new, record.source ≠ "scheduled" := by
  apply applyReload_state
    (P := fun s =>
      ∃ new, s.recorder.events = c.recorder.events ++ new ∧
        ∀ record ∈ new, record.source ≠ "scheduled")
  · intro fault _ s hState
    exact hState
  · intro fault _ _ s hState
    rcases hState with ⟨new, hEvents, hSources⟩
    rcases activateNow_records s fault.injectorId fault with
      ⟨record, hAppend, _, _, hSource⟩
    refine ⟨new ++ [record], ?_, ?_⟩
    · rw [hAppend, hEvents, List.append_assoc]
    · intro other hOther
      rcases List.mem_append.mp hOther with hOld | hNew
      · exact hSources other hOld
      · rw [List.mem_singleton] at hNew
        subst hNew
        simp [hSource]
  · intro fault _ callback delay _ _ s hState
    exact hState
  · exact ⟨[], by simp [clearScenario, FaultScheduler.clear],
      by simp⟩

/-
  Only the callbacks of timers record events of source
  `scheduled`.
-/
theorem source_of_step
    {a : Action}
    {after : FaultController}
    (hStep : c.step h a = some after) :
    (∃ new,
        after.recorder.events = c.recorder.events ++ new ∧
          ∀ record ∈ new, record.source ≠ "scheduled") ∨
      ∃ n e, a = .callback n ∧ c.node.ready n = some e ∧
        e.callback.isScheduled = true := by
  refine step_keeps
    (P := fun s =>
      (∃ new, s.recorder.events = c.recorder.events ++ new ∧
        ∀ record ∈ new, record.source ≠ "scheduled") ∨
      ∃ n e, a = .callback n ∧ c.node.ready n = some e ∧
        e.callback.isScheduled = true)
    ?_ ?_ ?_ ?_ ?_ ?_ ?_ ?_ hStep
  · intro elapsed rosNow _
    exact Or.inl ⟨[], by simp, by simp⟩
  · intro n e key fault hAction hReady hCallback
    exact Or.inr ⟨n, e, hAction, hReady, by rw [hCallback]; rfl⟩
  · intro n e key fault hAction hReady hCallback
    exact Or.inr ⟨n, e, hAction, hReady, by rw [hCallback]; rfl⟩
  · intro request target _ _
    rcases switchFault_records c target request with
      ⟨record, hEvents, _, _, hSource⟩
    exact Or.inl ⟨[record], hEvents, by simp [hSource]⟩
  · intro request target field updated _ _ _ _ _
    rcases storeValue_records c target request updated with
      ⟨record, hEvents, _, _, hSource⟩
    exact Or.inl ⟨[record], hEvents, by simp [hSource]⟩
  · intro content newScenario _ _
    exact Or.inl (source_of_applyReload newScenario)
  · intro subscription _ _
    exact Or.inl ⟨[], by simp, by simp⟩
  · exact Or.inl ⟨[], by simp, by simp⟩

/- A step from a state without stale timers is harmless. -/
theorem PendingAreLoaded.actsForLoadedScenario
    (hPending : c.PendingAreLoaded)
    (a : Action) :
    ActsForLoadedScenario h c a := by
  have hReadyLoaded :
      ∀ n e, c.node.ready n = some e →
        e.callback.isScheduled = true →
          c.FromLoadedScenario e := by
    intro n e hReady hScheduled
    rw [CallbackNode.ready_eq_some_iff] at hReady
    rcases hReady with ⟨hEntity, hNotCancelled, _, _⟩
    rcases hPending e (List.mem_of_getElem? hEntity)
        hScheduled with hCancelled | hLoaded
    · rw [hNotCancelled] at hCancelled
      cases hCancelled
    · exact hLoaded
  constructor
  · intro n e _ hReady hScheduled
    exact hReadyLoaded n e hReady hScheduled
  · intro after new hStep hNew record hRecord hSource
    rcases source_of_step hStep with
      ⟨other, hOther, hSources⟩ |
        ⟨n, e, hAction, hReady, hScheduled⟩
    · have hSame : new = other := by
        rw [hNew] at hOther
        exact List.append_cancel_left hOther
      subst hSame
      exact absurd hSource (hSources record hRecord)
    · exact ⟨n, e, hAction, hReady,
        hReadyLoaded n e hReady hScheduled⟩

end Quiet

------------------------------------------------------------
-- Replaced Schedules
------------------------------------------------------------

/-
  In a run whose reloads find no timer pending, only timers
  of the loaded scenario act.
-/
theorem replaced_schedule_never_acts
    {h : HashOrder String}
    {factory : InjectorConfig → Bool}
    {scenario : ScenarioConfig}
    {c : FaultController}
    {actions : List Action}
    (hStarted : Started h factory scenario c)
    (hQuiet : Along (step h) (QuietReload h) c actions) :
    Along (step h) (ActsForLoadedScenario h) c actions := by
  apply along_of_invariant (I := PendingAreLoaded) ?_ ?_
    (pendingAreLoaded_of_started hStarted) hQuiet
  · intro s a after hPending hReload hStep
    exact hPending.step hReload hStep
  · intro s a hPending _
    exact hPending.actsForLoadedScenario a

/- The timers of a running controller hold themselves. -/
theorem timersPersist_of_run
    {h : HashOrder String}
    {factory : InjectorConfig → Bool}
    {scenario : ScenarioConfig}
    {initial c : FaultController}
    {actions : List Action}
    (hStarted : Started h factory scenario initial)
    (hRun : run (step h) initial actions = some c) :
    c.TimersPersist := by
  have hAlways :
      Along (step h) (fun _ _ => True) initial actions :=
    along_of_forall (fun _ _ => True.intro) initial actions
  refine run_invariant ?_
    (timersPersist_of_started hStarted) hAlways hRun
  intro s a t hPersist _ hStep
  exact hPersist.step hStep

/-
  A reload that finds a timer pending does not replace the
  schedule: once the timer is due it runs.
-/
theorem stale_timer_acts
    {h : HashOrder String}
    {factory : InjectorConfig → Bool}
    {scenario newScenario : ScenarioConfig}
    {initial c : FaultController}
    {actions : List Action}
    {content : Except String ScenarioConfig}
    (hStarted : Started h factory scenario initial)
    (hRun : run (step h) initial actions = some c)
    (hCheck : c.checkReload h content = .ok newScenario)
    (hPending : ¬ c.TimersHaveRun) :
    ∃ elapsed n,
      ¬ Along (step h) (ActsForLoadedScenario h) c
          [ .reloadScenario content,
            .advance elapsed 0, .callback n ] := by
  have hPersist := timersPersist_of_run hStarted hRun
  unfold TimersHaveRun at hPending
  push Not at hPending
  rcases hPending with ⟨e, hMember, hScheduled, hCancelled⟩
  rcases List.mem_iff_getElem?.mp hMember with ⟨n, hEntity⟩
  have hGeneration := (hPersist n e hEntity hScheduled).2
  -- the reload keeps the entity and moves to the next load
  have hAfter :
      c.generation <
          (applyReload h newScenario c).state.generation ∧
        ∃ more,
          (applyReload h newScenario c).state.node.entities =
            c.node.entities ++ more := by
    apply applyReload_state
      (P := fun s =>
        c.generation < s.generation ∧
          ∃ more, s.node.entities = c.node.entities ++ more)
    · exact fun _ _ _ hState => hState
    · exact fun _ _ _ _ hState => hState
    · rintro fault _ callback delay _ _ s ⟨hLess, more, hMore⟩
      refine ⟨hLess, ?_⟩
      change ∃ more', s.node.entities ++ _ = _ ++ more'
      rw [hMore]
      exact ⟨_, List.append_assoc _ _ _⟩
    · exact ⟨Nat.lt_succ_self _, [], by simp [clearScenario,
        FaultScheduler.clear]⟩
  have hReload :
      step h c (.reloadScenario content) =
        some (applyReload h newScenario c).state := by
    simp [step, reloadScenario, hCheck]
  have hPersistAfter := hPersist.applyReload (h := h)
    newScenario
  generalize (applyReload h newScenario c).state = t
    at hAfter hReload hPersistAfter
  rcases hAfter with ⟨hLess, more, hMore⟩
  have hStill : t.node.entities[n]? = some e := by
    rw [hMore, List.getElem?_append_left
      (List.getElem?_eq_some_iff.mp hEntity).1]
    exact hEntity
  rcases ready_after_wait hPersistAfter hStill hScheduled
      (by simpa using hCancelled) with ⟨elapsed, hReady⟩
  refine ⟨elapsed, n, ?_⟩
  intro hAlong
  have hActs := ((hAlong.2 t hReload).2 _ rfl).1
  have hLoaded := hActs.1 n e rfl hReady hScheduled
  have hSame : e.generation = t.generation := hLoaded.1
  omega

end FaultController

------------------------------------------------------------
-- A Reload Before The Start Time
------------------------------------------------------------

namespace FaultController.LateReload

open FaultScheduler FaultServiceManager Transition

def injector : InjectorConfig where
  id := "base"
  type := "odom"
  topic := some
    { inputTopic := "odom", outputTopic := "odom_faulty" }

/- A fault that starts after five seconds. -/
def delayed : ScenarioConfig where
  injectors := [injector]
  faults :=
    [{ id := "bias", injectorId := "base",
       start := some 5000 }]

/- The same fault for manual control. -/
def manual : ScenarioConfig where
  injectors := [injector]
  faults := [{ id := "bias", injectorId := "base" }]

def started (scenario : ScenarioConfig) : FaultController :=
  (construct .insertion (fun _ => true) {} 0 scenario).state

/- Reload at once and wait. -/
def reloadAndWait : List Action :=
  [.reloadScenario (.ok manual), .advance 5000000000 0]

/- Afterwards the executor runs the start timer, entity 3. -/
def actions : List Action :=
  reloadAndWait ++ [.callback 3]

/-
  The accepted reload to manual control returns success, and
  five seconds later the fault activates by itself.
-/
theorem replaced_schedule_acts :
    Started .insertion (fun _ => true) delayed
        (started delayed) ∧
      (validateScenario .insertion delayed).ok = true ∧
      (started delayed).reloadScenarioResult .insertion
          (.ok manual) =
        some ⟨true, "Scenario reloaded successfully"⟩ ∧
      (run (step .insertion) (started delayed) actions).any
        (fun c => c.isActive "base" "bias") = true ∧
      ¬ Along (step .insertion)
          (ActsForLoadedScenario .insertion)
          (started delayed) actions := by
  refine ⟨⟨0, 0, by rfl⟩, by decide, by decide, by decide, ?_⟩
  intro hAlong
  have hReady :
      (run (step .insertion) (started delayed)
        reloadAndWait).any
        (fun c => (c.node.ready 3).any fun e =>
          e.callback.isScheduled ∧
            e.generation ≠ c.generation) = true := by
    decide
  rw [Option.any_eq_true] at hReady
  rcases hReady with ⟨c, hRun, hStale⟩
  rw [Option.any_eq_true] at hStale
  rcases hStale with ⟨e, hFires, hOld⟩
  rw [actions, along_append_iff] at hAlong
  have hActs := hAlong.2 c hRun
  have hLoaded := hActs.1.1 3 e rfl hFires
  simp only [Bool.decide_and, Bool.decide_eq_true,
    Bool.and_eq_true, decide_eq_true_eq] at hOld
  exact hOld.2 (hLoaded hOld.1).1

/- Let the start timer run. -/
def waitAndStart : List Action :=
  [.advance 5000000000 0, .callback 3]

/- A reload after the start timer has run is quiet. -/
theorem replaced_schedule_never_acts_after_start :
    Along (step .insertion) (ActsForLoadedScenario .insertion)
      (started delayed)
      (waitAndStart ++
        [.reloadScenario (.ok manual), .advance 1 0]) := by
  have hStarted :
      Started .insertion (fun _ => true) delayed
        (started delayed) :=
    ⟨0, 0, by rfl⟩
  have hRan :
      (run (step .insertion) (started delayed)
        waitAndStart).all
        (fun c => decide c.TimersHaveRun) = true := by
    decide
  apply replaced_schedule_never_acts hStarted
  rw [along_append_iff]
  constructor
  · refine ⟨?_, fun s _ => ⟨?_, fun _ _ => True.intro⟩⟩
    · intro content newScenario hAction
      cases hAction
    · intro content newScenario hAction
      cases hAction
  · intro c hRun
    rw [hRun, Option.all_some, decide_eq_true_eq] at hRan
    refine ⟨fun _ _ _ _ => hRan, fun s _ => ?_⟩
    refine ⟨?_, fun _ _ => True.intro⟩
    intro content newScenario hAction
    cases hAction

end FaultController.LateReload
