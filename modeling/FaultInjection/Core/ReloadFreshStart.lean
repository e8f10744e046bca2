import FaultInjection.Core.EventCauses
import FaultInjection.Core.ReloadCompatibility
import FaultInjection.Core.AssertionReferences

/-
  A reload leaves what a restart leaves.

  Whatever happened before, an accepted reload that completes
  leaves the stored faults and the flags that a new process
  would set up for the new scenario, records the same startup
  events and creates the same timers. The timers that have
  not run until then are no longer held, but still pending.

  Key definitions include:
    * `FaultController.heldTimers`
    * `FaultController.pendingTimers`
    * `FaultController.startRegistry`
    * `FaultController.RunsCreated`

  Key theorems include:
    * `FaultController.scheduleFaults_exact`
    * `FaultController.registry_scheduleRegistered`
    * `FaultController.reload_is_fresh_start`
-/

namespace FaultController

open FaultScheduler FaultServiceManager Transition

------------------------------------------------------------
-- What Scheduling Leaves
------------------------------------------------------------

/- What an entity runs and the time until it is due. -/
def remaining
    (steadyNow : Int)
    (e : CallbackEntity Callback) : Callback × Option Int :=
  (e.callback, e.dueAt.map fun due => due - steadyNow)

/- The pending timers that the scheduler holds. -/
def heldTimers
    (c : FaultController) : List (Callback × Option Int) :=
  c.timers.filterMap fun n =>
    (c.node.entities[n]?.filter fun e => ¬ e.cancelled).map
      (remaining c.node.steadyNow)

/- The scheduler's timers that have not run, held or not. -/
def pendingTimers
    (c : FaultController) : List (Callback × Option Int) :=
  (c.node.entities.filter fun e =>
      e.callback.isScheduled ∧ ¬ e.cancelled).map
    (remaining c.node.steadyNow)

/- A member of the node is no timer. -/
theorem pendingTimers_createMember
    (c : FaultController)
    (m : Member) :
    (c.createMember m).pendingTimers = c.pendingTimers := by
  change
    ((c.node.entities ++ [_]).filter _).map
        (remaining c.node.steadyNow) =
      _
  rw [List.filter_append, List.map_append]
  simp [Callback.isScheduled, pendingTimers]

/- Every timer that is held exists. -/
def TimersExist (c : FaultController) : Prop :=
  ∀ n ∈ c.timers, n < c.node.entities.length

/- The timers of a fault as they are created. -/
def plannedTimers
    (initiallyActiveFaults : List String)
    (item : String × FaultConfig) :
    List (Callback × Option Int) :=
  (faultTimers initiallyActiveFaults item.1 item.2).map
    fun timer => (timer.1, some (max timer.2 1 * 10 ^ 6))

/- The event of a fault that is active at startup. -/
def startupEvents
    (initiallyActiveFaults : List String)
    (item : String × FaultConfig) : List FaultEvent :=
  if isInitiallyActive item.2 initiallyActiveFaults then
    [plannedEvent item.1 item.2 true "startup"]
  else
    []

/-
  What scheduling has created and recorded so far, next to
  the timers that were pending before.
-/
structure Progress
    (earlier timers : List (Callback × Option Int))
    (events : List FaultEvent)
    (c : FaultController) : Prop where
  exist : c.TimersExist
  named : c.Named
  held : c.heldTimers = timers
  pending : c.pendingTimers = earlier ++ timers
  recorded : c.recordedEvents = events

section Schedule

variable {h : HashOrder String}
variable {c t : FaultController}
variable {earlier timers : List (Callback × Option Int)}
variable {events : List FaultEvent}

theorem Progress.addTimer
    (hProgress : Progress earlier timers events c)
    (callback : Callback)
    (delay : Int)
    (hScheduled : callback.isScheduled = true) :
    Progress earlier
      (timers ++ [(callback, some (max delay 1 * 10 ^ 6))])
      events (FaultScheduler.addTimer callback delay c) where
  exist := by
    intro n hTimer
    change n < (c.node.entities ++ [_]).length
    rw [List.length_append, List.length_singleton]
    rcases List.mem_append.mp hTimer with hOld | hNew
    · exact Nat.lt_succ_of_lt (hProgress.exist n hOld)
    · rw [List.mem_singleton.mp hNew]
      exact Nat.lt_succ_self _
  named := hProgress.named
  held := by
    change
      (c.timers ++ [c.node.entities.length]).filterMap
          (fun n =>
            ((c.node.entities ++ [_])[n]?.filter fun e =>
              ¬ e.cancelled).map (remaining c.node.steadyNow)) =
        _
    rw [List.filterMap_append, ← hProgress.held]
    congr 1
    · apply List.filterMap_congr
      intro n hTimer
      rw [List.getElem?_append_left (hProgress.exist n hTimer)]
    · simp [remaining, CallbackEntity.dueAt]
  pending := by
    change
      ((c.node.entities ++ [_]).filter _).map
          (remaining c.node.steadyNow) =
        _
    rw [List.filter_append, List.map_append,
      ← List.append_assoc, ← hProgress.pending]
    congr 1
    simp [hScheduled, remaining, CallbackEntity.dueAt]
  recorded := hProgress.recorded

theorem Progress.createMember
    (hProgress : Progress earlier timers events c)
    (m : Member) :
    Progress earlier timers events (c.createMember m) where
  exist := by
    intro n hTimer
    change n < (c.node.entities ++ [_]).length
    rw [List.length_append]
    exact Nat.lt_add_right _ (hProgress.exist n hTimer)
  named := hProgress.named
  held := by
    rw [← hProgress.held]
    apply List.filterMap_congr
    intro n hTimer
    change
      ((c.node.entities ++ [_])[n]?.filter fun e =>
        ¬ e.cancelled).map (remaining c.node.steadyNow) = _
    rw [List.getElem?_append_left (hProgress.exist n hTimer)]
  pending :=
    (pendingTimers_createMember c m).trans hProgress.pending
  recorded := hProgress.recorded

theorem Progress.activateNow
    (hProgress : Progress earlier timers events c)
    (key : String)
    (fault : FaultConfig) :
    Progress earlier timers
      (events ++ [plannedEvent key fault true "startup"])
      (FaultScheduler.activateNow key fault c) where
  exist := hProgress.exist
  named :=
    (sameInjectors_setActive c key fault.id true).configured
      hProgress.named
  held := hProgress.held
  pending := hProgress.pending
  recorded := by
    rw [recordedEvents_activateNow hProgress.named,
      hProgress.recorded]

theorem Progress.scheduleFault
    {initiallyActiveFaults : List String}
    {item : String × FaultConfig}
    (hProgress : Progress earlier timers events c)
    (hDone :
      FaultScheduler.scheduleFault initiallyActiveFaults item.1
          item.2 c =
        .done t) :
    Progress earlier
      (timers ++ plannedTimers initiallyActiveFaults item)
      (events ++ startupEvents initiallyActiveFaults item) t := by
  have hActivated :
      Progress earlier timers
        (events ++ startupEvents initiallyActiveFaults item)
        (startupActivation initiallyActiveFaults item.1 item.2
          c) := by
    unfold startupEvents startupActivation
    split
    · exact hProgress.activateNow item.1 item.2
    · rw [List.append_nil]
      exact hProgress
  rw [scheduleFault_eq] at hDone
  have hEnd :=
    Outcome.forEach_done
      (I := fun created u =>
        Progress earlier
          (timers ++
            created.map fun timer =>
              (timer.1, some (max timer.2 1 * 10 ^ 6)))
          (events ++ startupEvents initiallyActiveFaults item) u)
      (fun created timer u v hCreated hTimer hRound => by
        have hScheduled : timer.1.isScheduled = true := by
          rcases callback_of_mem_faultTimers hTimer with
            hStart | hStop
          · rw [hStart]
            rfl
          · rw [hStop]
            rfl
        rw [scheduleTimer_eq] at hRound
        split at hRound
        · rw [Outcome.done.injEq] at hRound
          rw [← hRound, List.map_append, ← List.append_assoc]
          exact hCreated.addTimer timer.1 timer.2 hScheduled
        · cases hRound)
      (by
        rw [List.map_nil, List.append_nil]
        exact hActivated)
      hDone
  exact hEnd

/- Scheduling creates and records what the work list says. -/
theorem scheduleFaults_exact
    (hNamed : c.Named)
    (hEmpty : c.timers = [])
    (hDone : scheduleFaults h c = .done t) :
    Progress c.pendingTimers
      ((c.workList h).flatMap
        (plannedTimers c.scenario.initiallyActiveFaults))
      (c.recordedEvents ++
        (c.workList h).flatMap
          (startupEvents c.scenario.initiallyActiveFaults))
      t := by
  rw [scheduleFaults_eq_forEach] at hDone
  refine
    Outcome.forEach_done
      (I := fun items u =>
        Progress c.pendingTimers
          (items.flatMap
            (plannedTimers c.scenario.initiallyActiveFaults))
          (c.recordedEvents ++
            items.flatMap
              (startupEvents c.scenario.initiallyActiveFaults))
          u)
      ?_ ?_ hDone
  · intro items item u v hProgress _ hRound
    have hNext := hProgress.scheduleFault hRound
    rw [List.flatMap_append, List.flatMap_append,
      List.flatMap_singleton, List.flatMap_singleton,
      ← List.append_assoc]
    exact hNext
  · refine ⟨?_, hNamed, ?_, (List.append_nil _).symm, ?_⟩
    · rw [TimersExist, hEmpty]
      exact fun _ hTimer => by cases hTimer
    · rw [heldTimers, hEmpty]
      rfl
    · simp

end Schedule

------------------------------------------------------------
-- What Loading Leaves
------------------------------------------------------------

/-
  The store after a scenario was loaded: the last fault of
  each id, active if it is listed as initially active.
-/
def startRegistry
    (runs : String → Bool)
    (scenario : ScenarioConfig) : Registry :=
  fun key faultId =>
    if runs key then
      (lastFault key faultId scenario.faults).map fun fault =>
        ⟨fault,
          isInitiallyActive fault scenario.initiallyActiveFaults⟩
    else
      none

section Load

variable {h k : HashOrder String}
variable {s t c : FaultController}

theorem registry_scheduleRegistered
    (hFaults : s.NoFaults)
    (hFlags : s.NoFlags)
    (hDone : scheduleFaults h (registerFaults s) = .done t) :
    t.registry = startRegistry s.runs s.scenario := by
  have hSame := scheduleFaults_sameFaults h (registerFaults s)
  rw [hDone, Outcome.state_done] at hSame
  funext key faultId
  unfold registry startRegistry runs
  rw [hSame.faultConfig, faultConfig_registerFaults,
    hFaults key faultId, Option.or_none]
  cases hRuns : (s.injector? key).isSome with
  | false => rfl
  | true =>
      cases hLast : lastFault key faultId s.scenario.faults with
      | none => simp
      | some fault =>
          rcases mem_of_lastFault hLast with
            ⟨hFault, rfl, rfl⟩
          have hFlag :=
            isActive_scheduleRegistered_iff hFaults hFlags hDone
              hFault hRuns
          have hEq :
              t.isActive fault.injectorId fault.id =
                isInitiallyActive fault
                  s.scenario.initiallyActiveFaults := by
            rw [Bool.eq_iff_iff, isInitiallyActive,
              decide_eq_true_iff]
            exact hFlag
          simp [hEq]

/- The work lists of one scenario differ in their order only. -/
theorem workList_perm
    (hScenario : s.scenario = t.scenario)
    (hRuns :
      ∀ key,
        (s.injector? key).isSome = (t.injector? key).isSome) :
    (s.workList h).Perm (t.workList k) := by
  have hKeys : s.injectors.keys.Perm t.injectors.keys := by
    apply (List.perm_ext_iff_of_nodup s.injectors.distinct
      t.injectors.distinct).mpr
    intro key
    have hFirst := UnorderedMap.mem_keys_iff s.injectors key
    have hSecond := UnorderedMap.mem_keys_iff t.injectors key
    have hBoth := hRuns key
    unfold injector? at hBoth
    rw [Bool.eq_iff_iff, Option.isSome_iff_exists,
      Option.isSome_iff_exists] at hBoth
    exact hFirst.trans (hBoth.trans hSecond.symm)
  unfold workList
  rw [hScenario]
  exact
    ((h.perm _).trans
      (hKeys.trans (k.perm _).symm)).flatMap_right _

/-
  The loaded scenario is accepted, and the injectors that run
  are those that the factory creates for it.
-/
structure RunsCreated
    (h : HashOrder String)
    (factory : InjectorConfig → Bool)
    (c : FaultController) : Prop where
  accepted : (validateScenario h c.scenario).ok = true
  runs :
    ∀ key,
      (c.injector? key).isSome = true ↔
        Creates factory c.scenario key

variable {factory : InjectorConfig → Bool}
variable {scenario newScenario : ScenarioConfig}
variable {content : Except String ScenarioConfig}

/- An accepted reload lists the injectors that run. -/
theorem RunsCreated.creates_iff
    (hCreated : RunsCreated h factory c)
    (hCheck : c.checkReload h content = .ok newScenario)
    (key : String) :
    (c.injector? key).isSome = true ↔
      Creates factory newScenario key := by
  rcases checkReload_eq_ok_iff.mp hCheck with
    ⟨_, hOk, hCompatible⟩
  have hPerm :=
    (compatible_iff_perm h c newScenario hCreated.accepted
      hOk).mp hCompatible
  rw [hCreated.runs key]
  unfold Creates
  simp only [hPerm.mem_iff]

theorem RunsCreated.step
    {a : Action}
    (hCreated : RunsCreated h factory c)
    (hStep : c.step h a = some t) :
    RunsCreated h factory t := by
  have hRuns := (sameInjectors_step hStep).isSome
  by_cases hLoads : c.loads h a = true
  · rcases loads_iff.mp hLoads with
      ⟨content, newScenario, rfl, hCheck⟩
    have hAfter : t.scenario = newScenario := by
      rw [FaultController.step, Option.some.injEq] at hStep
      rw [← hStep]
      unfold reloadScenario
      rw [hCheck]
      exact applyReload_scenario newScenario
    refine ⟨?_, ?_⟩
    · rw [hAfter]
      exact (checkReload_eq_ok_iff.mp hCheck).2.1
    · intro key
      rw [hRuns, hAfter]
      exact hCreated.creates_iff hCheck key
  · have hScenario : t.scenario = c.scenario := by
      cases took_of_step hStep with
      | advanced => rfl
      | started => rfl
      | stopped => rfl
      | member => rfl
      | unresolved => rfl
      | switched => rfl
      | refused => rfl
      | stored => rfl
      | rejected => rfl
      | reloaded hCheck =>
          exact
            absurd (loads_iff.mpr ⟨_, _, rfl, hCheck⟩) hLoads
      | delivered => rfl
    refine ⟨by rw [hScenario]; exact hCreated.accepted, ?_⟩
    intro key
    rw [hRuns, hScenario]
    exact hCreated.runs key

theorem runsCreated_of_started
    (hOk : (validateScenario h scenario).ok = true)
    (hStarted : Started h factory scenario c) :
    RunsCreated h factory c := by
  have hScenario := scenario_of_started hStarted
  rcases hStarted with ⟨steadyNow, rosNow, hConstruct⟩
  refine ⟨by rw [hScenario]; exact hOk, ?_⟩
  intro key
  rw [hScenario]
  exact (faultConfig_of_construct hConstruct key).1

------------------------------------------------------------
-- Reload And Restart
------------------------------------------------------------

/-
  The state after the faults of a scenario were registered
  with empty injectors and scheduled.
-/
structure LoadedFrom
    (h : HashOrder String)
    (empty : FaultController)
    (c : FaultController) : Prop where
  store : c.registry = startRegistry empty.runs empty.scenario
  progress :
    Progress empty.pendingTimers
      ((empty.workList h).flatMap
        (plannedTimers empty.scenario.initiallyActiveFaults))
      (empty.recordedEvents ++
        (empty.workList h).flatMap
          (startupEvents empty.scenario.initiallyActiveFaults))
      c
  runs :
    ∀ key,
      (empty.injector? key).isSome = (c.injector? key).isSome

theorem loadedFrom_scheduleRegistered
    (hFaults : s.NoFaults)
    (hFlags : s.NoFlags)
    (hNamed : s.Named)
    (hEmpty : s.timers = [])
    (hDone : scheduleFaults h (registerFaults s) = .done t) :
    LoadedFrom h s t := by
  have hSame := scheduleFaults_sameFaults h (registerFaults s)
  rw [hDone, Outcome.state_done] at hSame
  have hRegistered : (registerFaults s).Named := by
    refine registerFaults_state (P := Named) ?_ hNamed
    intro fault _ u hState
    have hKept : SameInjectors (registerFault u fault) u :=
      sameInjectors_modifyInjector fun _ _ => rfl
    exact hKept.configured hState
  have hWork :
      (registerFaults s).workList h = s.workList h := by
    unfold workList
    rw [registerFaults_keys, registerFaults_scenario]
  have hEvents :
      (registerFaults s).recordedEvents = s.recordedEvents := by
    unfold recordedEvents
    rw [registerFaults_recorder]
  have hExact :=
    scheduleFaults_exact hRegistered
      (by rw [registerFaults_timers, hEmpty]) hDone
  have hPending :
      (registerFaults s).pendingTimers = s.pendingTimers := by
    unfold pendingTimers
    rw [registerFaults_node]
  rw [hWork, hEvents, hPending, registerFaults_scenario]
    at hExact
  refine
    ⟨registry_scheduleRegistered hFaults hFlags hDone, hExact,
      ?_⟩
  intro key
  rw [hSame.isSome, injector?_registerFaults_isSome]

/- Loads of one scenario leave the same. -/
theorem LoadedFrom.same
    {u v : FaultController}
    (hFirst : LoadedFrom h s u)
    (hSecond : LoadedFrom k t v)
    (hScenario : s.scenario = t.scenario)
    (hRuns :
      ∀ key,
        (u.injector? key).isSome = (v.injector? key).isSome) :
    u.registry = v.registry ∧
      u.heldTimers.Perm v.heldTimers ∧
        u.pendingTimers = s.pendingTimers ++ u.heldTimers ∧
          v.pendingTimers = t.pendingTimers ++ v.heldTimers ∧
            ∃ new other,
              u.recordedEvents = s.recordedEvents ++ new ∧
                v.recordedEvents = t.recordedEvents ++ other ∧
                  new.Perm other := by
  have hBoth :
      ∀ key,
        (s.injector? key).isSome = (t.injector? key).isSome :=
    fun key => by
      rw [hFirst.runs, hSecond.runs, hRuns]
  have hWork := workList_perm (h := h) (k := k) hScenario hBoth
  refine ⟨?_, ?_, ?_, ?_, ?_⟩
  · rw [hFirst.store, hSecond.store, hScenario]
    congr 1
    exact funext hBoth
  · rw [hFirst.progress.held, hSecond.progress.held, hScenario]
    exact hWork.flatMap_right _
  · rw [hFirst.progress.pending, hFirst.progress.held]
  · rw [hSecond.progress.pending, hSecond.progress.held]
  · refine
      ⟨_, _, hFirst.progress.recorded,
        hSecond.progress.recorded, ?_⟩
    rw [hScenario]
    exact hWork.flatMap_right _

theorem loadedFrom_of_started
    (hStarted : Started h factory scenario c) :
    ∃ empty : FaultController,
      empty.scenario = scenario ∧ empty.recordedEvents = [] ∧
        empty.pendingTimers = [] ∧ LoadedFrom h empty c := by
  have hNamed := named_of_started hStarted
  rcases hStarted with ⟨steadyNow, rosNow, hConstruct⟩
  let created :=
    createInjectors factory
      (startAssertionRunner
        { node := { steadyNow := steadyNow, rosNow := rosNow }
          scenario := scenario
          generation := 0 })
  have hScenario : created.scenario = scenario :=
    setUp_scenario factory _
  have hRecorder : created.recorder.events = [] :=
    setUp_proj factory _ (fun s => s.recorder.events)
      (fun _ _ => rfl) fun _ _ => rfl
  have hTimers : created.timers = [] :=
    setUp_proj factory _ FaultController.timers
      (fun _ _ => rfl) fun _ _ => rfl
  have hPending : created.pendingTimers = [] :=
    setUp_proj factory _ pendingTimers
      (fun m s => pendingTimers_createMember s m)
      fun _ _ => rfl
  unfold construct at hConstruct
  rcases Outcome.bind_eq_done_iff.mp hConstruct with
    ⟨t, hSchedule, hEnd⟩
  rw [Outcome.done.injEq] at hEnd
  have hSame : SameFaults c (registerFaults created) :=
    sameFaults_of_scheduled hSchedule hEnd.symm
  have hCreated : created.Named := by
    have hRegistered : (registerFaults created).Named :=
      hSame.sameInjectors.symm.configured hNamed
    refine SameInjectors.configured ?_ hRegistered
    refine SameInjectors.symm ?_
    refine registerFaults_state
      (P := fun u => SameInjectors u created) ?_ fun _ => rfl
    intro fault _ u hState
    have hKept : SameInjectors (registerFault u fault) u :=
      sameInjectors_modifyInjector fun _ _ => rfl
    exact hKept.trans hState
  have hLoaded : LoadedFrom h created t :=
    loadedFrom_scheduleRegistered
      (noFaults_setUp fun _ _ => rfl)
      (noFlags_setUp fun _ _ => rfl) hCreated hTimers hSchedule
  refine ⟨created, hScenario, ?_, hPending, ?_⟩
  · unfold recordedEvents
    rw [hRecorder]
    rfl
  · rw [← hEnd]
    exact
      ⟨hLoaded.store, hLoaded.progress.createMember _,
        hLoaded.runs⟩

theorem loadedFrom_applyReload
    (hNamed : c.Named)
    (hDone : applyReload h newScenario c = .done t) :
    LoadedFrom h (clearScenario newScenario c) t := by
  refine
    loadedFrom_scheduleRegistered
      (noFaults_clearScenario newScenario)
      (noFlags_clearScenario newScenario) ?_ rfl hDone
  refine SameInjectors.configured ?_ hNamed
  intro key
  rw [injector?_clearScenario, Option.map_map]
  exact rfl

/-
  In every reachable state a reload that is accepted and
  completes leaves the stored faults, the flags and the held
  timers of a process that is started with the new scenario,
  and records the same startup events. Pending are the timers
  of such a process and those that were pending before.
-/
theorem reload_is_fresh_start
    {start after fresh : FaultController}
    {actions : List Action}
    (hOk : (validateScenario h scenario).ok = true)
    (hStarted : Started h factory scenario start)
    (hRun : run (step h) start actions = some c)
    (hCheck : c.checkReload h content = .ok newScenario)
    (hDone : c.reloadScenario h content = .done after)
    (hFresh : Started k factory newScenario fresh) :
    after.registry = fresh.registry ∧
      after.heldTimers.Perm fresh.heldTimers ∧
        after.pendingTimers.Perm
            (c.pendingTimers ++ fresh.pendingTimers) ∧
          ∃ new,
            after.recordedEvents = c.recordedEvents ++ new ∧
              new.Perm fresh.recordedEvents := by
  have hCreated : RunsCreated h factory c :=
    run_invariant (I := RunsCreated h factory)
      (fun _ _ _ hState _ hStep => hState.step hStep)
      (runsCreated_of_started hOk hStarted)
      (along_of_forall (fun _ _ => trivial) start actions) hRun
  have hNamed := (explained_of_run hStarted hRun).named
  have hApply : applyReload h newScenario c = .done after := by
    unfold reloadScenario at hDone
    rw [hCheck] at hDone
    exact hDone
  have hReloaded := loadedFrom_applyReload hNamed hApply
  rcases loadedFrom_of_started hFresh with
    ⟨empty, hScenario, hEmpty, hNothing, hLoaded⟩
  have hRuns :
      ∀ key,
        (after.injector? key).isSome =
          (fresh.injector? key).isSome := by
    intro key
    have hAfter :
        (after.injector? key).isSome =
          (c.injector? key).isSome := by
      rw [← Outcome.state_done after, ← hApply]
      exact injector?_applyReload_isSome newScenario key
    rcases hFresh with ⟨_, _, hConstruct⟩
    rw [hAfter, Bool.eq_iff_iff, hCreated.creates_iff hCheck key]
    exact (faultConfig_of_construct hConstruct key).1.symm
  rcases hReloaded.same hLoaded hScenario.symm hRuns with
    ⟨hStore, hTimers, hAdded, hOnly, new, other, hNew, hOther,
      hEvents⟩
  rw [hNothing, List.nil_append] at hOnly
  refine ⟨hStore, hTimers, ?_, new, hNew, ?_⟩
  · rw [hAdded, hOnly]
    exact hTimers.append_left _
  rw [hEmpty, List.nil_append] at hOther
  rw [hOther]
  exact hEvents

end Load

end FaultController

------------------------------------------------------------
-- A Reload To Other Faults
------------------------------------------------------------

namespace FaultController.WatchedRun

open FaultServiceManager Transition

/- The same injector with one fault that starts later. -/
def changed : ScenarioConfig where
  injectors := [injector]
  faults :=
    [ { id := "late", injectorId := "base", start := some 500 },
      { id := "drop", injectorId := "base" } ]
  initiallyActiveFaults := ["drop"]

def restarted : FaultController :=
  (construct .insertion (fun _ => true) {} 0 changed).state

theorem reload_is_fresh_start_after_run :
    let after :=
      (last.reloadScenario .insertion (.ok changed)).state
    after.isActive "base" "drop" = true ∧
      after.registry = restarted.registry ∧
        after.heldTimers.Perm restarted.heldTimers ∧
          after.pendingTimers.Perm
            (last.pendingTimers ++ restarted.pendingTimers) := by
  have hFresh :
      Started .insertion (fun _ => true) changed restarted :=
    ⟨0, 0, by rfl⟩
  have hDone :
      last.reloadScenario .insertion (.ok changed) =
        .done
          (last.reloadScenario .insertion (.ok changed)).state :=
    Outcome.eq_done_of_returned (by decide +kernel)
  have hCheck :
      last.checkReload .insertion (.ok changed) =
        .ok changed :=
    checkReload_eq_ok_iff.mpr
      ⟨rfl, by decide +kernel, by decide +kernel⟩
  have hSame :=
    reload_is_fresh_start (by decide +kernel) started_started
      run_actions hCheck hDone hFresh
  exact
    ⟨by decide +kernel, hSame.1, hSame.2.1, hSame.2.2.1⟩

end FaultController.WatchedRun
