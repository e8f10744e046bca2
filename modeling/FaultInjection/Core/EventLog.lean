import FaultInjection.Core.Registration

/-
  When the recorded events tell which faults are active.

  Startup, timers and requests switch a fault on one injector
  and record its new state. A reload clears all flags without
  recording anything.

  Key definitions include:
    * `FaultEventRecorder.lastState`
    * `FaultController.Switches`
    * `FaultController.EventLogTrue`
    * `FaultController.LogKept`

  Key theorems include:
    * `FaultController.eventLogTrue_switches_iff`
    * `FaultController.eventLogTrue_scheduleRegistered_iff`
    * `FaultController.event_log_true_iff`
-/

------------------------------------------------------------
-- The Last Recorded State
------------------------------------------------------------

/- The text an event has for a state of its fault. -/
def stateText (value : Bool) : String :=
  if value then "active" else "inactive"

namespace FaultEventRecorder

/- The event tells whether its fault is active. -/
def tellsState (event : FaultEventRecord) : Bool :=
  event.state = "active" ∨ event.state = "inactive"

/- The state in the last event of a fault that tells one. -/
def lastState
    (recorder : FaultEventRecorder)
    (faultId : String) : Option String :=
  let telling :=
    (recorder.eventsForFault faultId).filter tellsState
  telling.getLast?.map fun event => event.state

/- The last event of a fault. -/
def lastEvent
    (recorder : FaultEventRecorder)
    (faultId : String) : Option FaultEventRecord :=
  (recorder.eventsForFault faultId).getLast?

end FaultEventRecorder

namespace FaultController

open FaultEventRecorder

variable {before after : FaultController}
variable {faultId state source : String}

theorem Records.lastState
    (hRecords : Records before after faultId state source)
    (id : String) :
    after.recorder.lastState id =
      if faultId = id ∧
          (state = "active" ∨ state = "inactive") then
        some state
      else
        before.recorder.lastState id := by
  rcases hRecords with ⟨record, hEvents, rfl, rfl, _⟩
  unfold FaultEventRecorder.lastState eventsForFault
  rw [hEvents, List.filter_append, List.filter_append]
  by_cases hId : record.faultId = id
  · by_cases hTells : tellsState record = true
    · have hState :
          record.state = "active" ∨
            record.state = "inactive" := by
        simpa [tellsState] using hTells
      simp [hId, hTells, hState]
    · have hState :
          ¬ (record.state = "active" ∨
            record.state = "inactive") := by
        simpa [tellsState] using hTells
      simp [hId, hTells, hState]
  · simp [hId]

theorem Records.lastEvent
    (hRecords : Records before after faultId state source)
    (id : String) :
    (after.recorder.lastEvent id).map
        (fun event => event.state) =
      if faultId = id then
        some state
      else
        (before.recorder.lastEvent id).map
          fun event => event.state := by
  rcases hRecords with ⟨record, hEvents, rfl, rfl, _⟩
  unfold FaultEventRecorder.lastEvent eventsForFault
  rw [hEvents, List.filter_append]
  by_cases hId : record.faultId = id
  · simp [hId]
  · simp [hId]

end FaultController

------------------------------------------------------------
-- Switching A Fault
------------------------------------------------------------

namespace FaultController

open FaultScheduler FaultServiceManager Transition

/- A change sets one flag and records the new state. -/
structure Switches
    (before after : FaultController)
    (key faultId : String)
    (value : Bool) : Prop where
  injectors :
    after.injectors =
      (before.modifyInjector key fun injector =>
        injector.setActive faultId value).injectors
  recorded :
    ∃ source,
      Records before after faultId (stateText value) source

section Switches

variable (c : FaultController)
variable (key : String)
variable (fault : FaultConfig)
variable (n : Nat)

theorem activateNow_switches :
    Switches c (activateNow key fault c) key fault.id true :=
  ⟨rfl, "startup", activateNow_records c key fault⟩

theorem runStart_switches :
    Switches c (runStart n key fault c) key fault.id true :=
  ⟨rfl, "scheduled", runStart_records c key fault n⟩

theorem runStop_switches :
    Switches c (runStop n key fault c) key fault.id false :=
  ⟨rfl, "scheduled", runStop_records c key fault n⟩

theorem switchFault_switches
    (target : Target)
    (request : SetFaultStateRequest) :
    Switches c (switchFault target request c) target.key
      request.faultId request.active := by
  refine ⟨?_, "manual", switchFault_records c target request⟩
  unfold switchFault
  cases request.active with
  | true => rfl
  | false => rfl

variable {c key}
variable {after : FaultController}
variable {faultId : String}
variable {value : Bool}

/- A switch keeps the registered faults. -/
theorem Switches.sameFaults
    (hSwitch : Switches c after key faultId value) :
    SameFaults after c := by
  have hSame := sameFaults_setActive c key faultId value
  unfold SameFaults FaultController.injector? at hSame ⊢
  rw [hSwitch.injectors]
  exact hSame

theorem Switches.hasFault
    (hSwitch : Switches c after key faultId value)
    (k id : String) :
    after.hasFault k id = c.hasFault k id :=
  hSwitch.sameFaults.hasFault k id

theorem Switches.isActive
    (hSwitch : Switches c after key faultId value)
    (k id : String) :
    after.isActive k id =
      if key = k ∧ faultId = id ∧
          c.hasFault key faultId = true then
        value
      else
        c.isActive k id := by
  rw [← isActive_setActive c key faultId value k id]
  unfold FaultController.isActive injector?
  rw [hSwitch.injectors]

theorem Switches.lastState
    (hSwitch : Switches c after key faultId value)
    (id : String) :
    after.recorder.lastState id =
      if faultId = id then
        some (stateText value)
      else
        c.recorder.lastState id := by
  rcases hSwitch.recorded with ⟨source, hRecords⟩
  rw [hRecords.lastState id]
  cases value with
  | true => simp [stateText]
  | false => simp [stateText]

end Switches

/-
  Every registered fault is active exactly if the last event
  that tells its state says so.
-/
def EventLogTrue (c : FaultController) : Prop :=
  ∀ key faultId, c.hasFault key faultId = true →
    (c.isActive key faultId = true ↔
      c.recorder.lastState faultId = some "active")

/-
  A switch keeps the log true exactly if no other injector has
  the fault in the other state.
-/
theorem eventLogTrue_switches_iff
    {c after : FaultController}
    {key faultId : String}
    {value : Bool}
    (hTrue : c.EventLogTrue)
    (hSwitch : Switches c after key faultId value) :
    after.EventLogTrue ↔
      ∀ k, k ≠ key → c.hasFault k faultId = true →
        c.isActive k faultId = value := by
  have hText :
      stateText value = "active" ↔ value = true := by
    cases value with
    | true => decide
    | false => decide
  constructor
  · intro hAfter k hOther hHas
    have hNow :=
      hAfter k faultId (by rw [hSwitch.hasFault, hHas])
    rw [hSwitch.isActive, if_neg (by simp [Ne.symm hOther]),
      hSwitch.lastState, if_pos rfl, Option.some.injEq,
      hText] at hNow
    exact Bool.eq_iff_iff.mpr hNow
  · intro hOthers k id hHas
    rw [hSwitch.hasFault] at hHas
    rw [hSwitch.isActive, hSwitch.lastState]
    by_cases hId : faultId = id
    · subst hId
      rw [if_pos rfl, Option.some.injEq, hText]
      by_cases hKey : key = k
      · subst hKey
        simp [hHas]
      · rw [if_neg (by simp [hKey]),
          hOthers k (Ne.symm hKey) hHas]
    · rw [if_neg (by simp [hId]), if_neg hId]
      exact hTrue k id hHas

end FaultController

------------------------------------------------------------
-- Registration And Scheduling
------------------------------------------------------------

namespace FaultController

open FaultScheduler FaultServiceManager

/- No flag is set. -/
def NoFlags (c : FaultController) : Prop :=
  ∀ key faultId, c.isActive key faultId = false

section Flags

variable {c : FaultController}

theorem NoFlags.registerFault
    (hNone : c.NoFlags)
    (fault : FaultConfig) :
    (registerFault c fault).NoFlags := by
  intro key faultId
  have hOld := hNone key faultId
  unfold FaultController.registerFault
    FaultController.isActive at *
  rw [injector?_modifyInjector]
  split
  · cases hInjector : c.injector? key with
    | none => rfl
    | some injector =>
        rw [hInjector, Option.any_some] at hOld
        simp [FaultInjectorBase.isActive_addFault, hOld]
  · exact hOld

theorem NoFlags.registerFaults
    (hNone : c.NoFlags) :
    (registerFaults c).NoFlags :=
  registerFaults_state
    (fun fault _ _ hState => hState.registerFault fault)
    hNone

theorem noFlags_addInjector
    {config : InjectorConfig}
    (hNone : c.NoFlags) :
    (addInjector config c).NoFlags := by
  intro key faultId
  have hOld := hNone key faultId
  unfold isActive at *
  rw [injector?_addInjector]
  split
  · rfl
  · exact hOld

theorem noFlags_setUp
    {factory : InjectorConfig → Bool}
    (hNone : c.NoFlags) :
    (createInjectors factory
      (startAssertionRunner c)).NoFlags := by
  apply createInjectors_state
  · exact fun _ _ hState => hState
  · exact fun _ _ _ hState => noFlags_addInjector hState
  · apply startAssertionRunner_state
    · exact fun _ _ hState => hState
    · exact hNone

/- A reload leaves no fault and no flag behind. -/
theorem injector?_clearScenario
    (newScenario : ScenarioConfig)
    (key : String) :
    (clearScenario newScenario c).injector? key =
      (c.injector? key).map FaultInjectorBase.clearFaults :=
  UnorderedMap.find?_mapValues _ _ _

theorem noFaults_clearScenario
    (newScenario : ScenarioConfig) :
    (clearScenario newScenario c).NoFaults := by
  intro key faultId
  unfold faultConfig
  rw [injector?_clearScenario]
  cases c.injector? key with
  | none => rfl
  | some injector => rfl

theorem noFlags_clearScenario
    (newScenario : ScenarioConfig) :
    (clearScenario newScenario c).NoFlags := by
  intro key faultId
  unfold isActive
  rw [injector?_clearScenario]
  cases c.injector? key with
  | none => rfl
  | some injector => simp

/- What registration into empty injectors registers. -/
theorem hasFault_registerFaults_iff
    (hNone : c.NoFaults)
    (key faultId : String) :
    (registerFaults c).hasFault key faultId = true ↔
      ∃ fault ∈ c.scenario.faults,
        fault.injectorId = key ∧ fault.id = faultId ∧
          (c.injector? key).isSome = true := by
  rw [hasFault_iff_faultConfig, faultConfig_registerFaults,
    hNone key faultId, Option.or_none]
  by_cases hRuns : (c.injector? key).isSome = true
  · simp only [hRuns, if_true, and_true]
    exact exists_lastFault_iff
  · simp [hRuns]

end Flags

/-
  What scheduling a list of faults does to the flags and to
  the log, given which ids are active at startup.
-/
structure StartedUp
    (before after : FaultController)
    (initiallyActiveFaults : List String)
    (items : List (String × FaultConfig)) : Prop where
  faults :
    ∀ key id, after.hasFault key id = before.hasFault key id
  flags :
    ∀ key id, after.isActive key id = true ↔
      before.isActive key id = true ∨
        (before.hasFault key id = true ∧
          id ∈ initiallyActiveFaults ∧
            ∃ fault, (key, fault) ∈ items ∧ fault.id = id)
  log :
    ∀ id, after.recorder.lastState id =
      if id ∈ initiallyActiveFaults ∧
          ∃ item ∈ items, item.2.id = id then
        some "active"
      else
        before.recorder.lastState id

/- Timers change neither the flags nor the log. -/
theorem scheduleFault_runtime
    (initiallyActiveFaults : List String)
    (key : String)
    (fault : FaultConfig)
    (s : FaultController) :
    let started :=
      startupActivation initiallyActiveFaults key fault s
    let scheduled :=
      (scheduleFault initiallyActiveFaults key fault s).state
    scheduled.injectors = started.injectors ∧
      scheduled.recorder = started.recorder := by
  intro started scheduled
  unfold scheduled
  rw [scheduleFault_eq]
  apply Outcome.forEach_state
    (P := fun (u : FaultController) =>
      u.injectors = started.injectors ∧
        u.recorder = started.recorder)
  · rintro ⟨callback, delay⟩ _ u hState
    exact scheduleTimer_state
      (P := fun (v : FaultController) =>
        v.injectors = started.injectors ∧
          v.recorder = started.recorder)
      hState fun _ => hState
  · exact ⟨rfl, rfl⟩

theorem scheduleFault_switches
    {initiallyActiveFaults : List String}
    {key : String}
    {fault : FaultConfig}
    {s t : FaultController}
    (hActive : fault.id ∈ initiallyActiveFaults)
    (hDone :
      scheduleFault initiallyActiveFaults key fault s =
        .done t) :
    Switches s t key fault.id true := by
  have hRuntime :=
    scheduleFault_runtime initiallyActiveFaults key fault s
  rw [hDone, Outcome.state_done] at hRuntime
  have hStarted :
      startupActivation initiallyActiveFaults key fault s =
        activateNow key fault s := by
    unfold startupActivation isInitiallyActive
    rw [if_pos (by simpa using hActive)]
  rw [hStarted] at hRuntime
  have hNow := activateNow_switches s key fault
  rcases hNow.recorded with ⟨source, record, hRecords⟩
  refine ⟨hRuntime.1.trans hNow.injectors, source, record, ?_⟩
  rw [hRuntime.2]
  exact hRecords

theorem scheduleFault_idle
    {initiallyActiveFaults : List String}
    {key : String}
    {fault : FaultConfig}
    {s t : FaultController}
    (hInactive : fault.id ∉ initiallyActiveFaults)
    (hDone :
      scheduleFault initiallyActiveFaults key fault s =
        .done t) :
    t.injectors = s.injectors ∧ t.recorder = s.recorder := by
  have hRuntime :=
    scheduleFault_runtime initiallyActiveFaults key fault s
  rw [hDone, Outcome.state_done] at hRuntime
  have hStarted :
      startupActivation initiallyActiveFaults key fault s =
        s := by
    unfold startupActivation isInitiallyActive
    rw [if_neg (by simpa using hInactive)]
  rw [hStarted] at hRuntime
  exact hRuntime

section StartedUp

variable {initiallyActiveFaults : List String}
variable {s u v : FaultController}
variable {items : List (String × FaultConfig)}
variable {key : String}
variable {fault : FaultConfig}

/- An item has the id if an old one or the new one has. -/
theorem exists_item_append
    (id : String) :
    (∃ item ∈ items ++ [(key, fault)], item.2.id = id) ↔
      (∃ item ∈ items, item.2.id = id) ∨ fault.id = id := by
  constructor
  · rintro ⟨item, hMember, hId⟩
    rcases List.mem_append.mp hMember with hOld | hNew
    · exact Or.inl ⟨item, hOld, hId⟩
    · rw [List.mem_singleton] at hNew
      subst hNew
      exact Or.inr hId
  · rintro (⟨item, hOld, hId⟩ | hId)
    · exact ⟨item, List.mem_append_left _ hOld, hId⟩
    · have hNew : (key, fault) ∈ items ++ [(key, fault)] :=
        List.mem_append_right _ (List.mem_singleton.mpr rfl)
      exact ⟨(key, fault), hNew, hId⟩

/- An id that is not active at startup adds nothing. -/
theorem StartedUp.idle
    (hStarted :
      StartedUp s u initiallyActiveFaults items)
    (hInactive : fault.id ∉ initiallyActiveFaults)
    (hInjectors : v.injectors = u.injectors)
    (hRecorder : v.recorder = u.recorder) :
    StartedUp s v initiallyActiveFaults
      (items ++ [(key, fault)]) := by
  have hNotNew :
      ∀ id, id ∈ initiallyActiveFaults → fault.id ≠ id := by
    intro id hId hSame
    subst hSame
    exact hInactive hId
  constructor
  · intro k id
    rw [← hStarted.faults k id]
    unfold hasFault injector?
    rw [hInjectors]
  · intro k id
    have hFlag : v.isActive k id = u.isActive k id := by
      unfold isActive injector?
      rw [hInjectors]
    rw [hFlag, hStarted.flags k id]
    by_cases hId : id ∈ initiallyActiveFaults
    · simp [hNotNew id hId, List.mem_append, or_and_right,
        exists_or]
    · simp [hId]
  · intro id
    rw [hRecorder, hStarted.log id]
    apply if_congr ?_ rfl rfl
    apply and_congr_right
    intro hId
    rw [exists_item_append, or_iff_left (hNotNew id hId)]

/- A startup activation sets its flag and records it. -/
theorem StartedUp.activate
    (hStarted :
      StartedUp s u initiallyActiveFaults items)
    (hActive : fault.id ∈ initiallyActiveFaults)
    (hSwitch : Switches u v key fault.id true) :
    StartedUp s v initiallyActiveFaults
      (items ++ [(key, fault)]) := by
  constructor
  · intro k id
    rw [hSwitch.hasFault, hStarted.faults]
  · intro k id
    rw [hSwitch.isActive, hStarted.faults key fault.id]
    by_cases hHere : key = k ∧ fault.id = id
    · rcases hHere with ⟨rfl, rfl⟩
      by_cases hHas : s.hasFault key fault.id = true
      · simp [hHas, hActive]
      · simp [hHas, hStarted.flags key fault.id]
    · have hNot :
          ¬ (key = k ∧ fault.id = id ∧
            s.hasFault key fault.id = true) := by
        intro hAll
        exact hHere ⟨hAll.1, hAll.2.1⟩
      rw [if_neg hNot, hStarted.flags k id]
      apply or_congr Iff.rfl
      apply and_congr Iff.rfl
      apply and_congr Iff.rfl
      constructor
      · rintro ⟨f, hMember, hId⟩
        exact ⟨f, List.mem_append_left _ hMember, hId⟩
      · rintro ⟨f, hMember, hId⟩
        rcases List.mem_append.mp hMember with hOld | hNew
        · exact ⟨f, hOld, hId⟩
        · rw [List.mem_singleton, Prod.mk.injEq] at hNew
          rcases hNew with ⟨rfl, rfl⟩
          exact absurd ⟨rfl, hId⟩ hHere
  · intro id
    rw [hSwitch.lastState, hStarted.log id]
    by_cases hId : fault.id = id
    · subst hId
      have hNow :
          fault.id ∈ initiallyActiveFaults ∧
            ∃ item ∈ items ++ [(key, fault)],
              item.2.id = fault.id := by
        rw [exists_item_append]
        exact ⟨hActive, Or.inr rfl⟩
      rw [if_pos rfl, if_pos hNow]
      rfl
    · rw [if_neg hId]
      apply if_congr ?_ rfl rfl
      rw [exists_item_append, or_iff_left hId]

end StartedUp

theorem startedUp_scheduleFaults
    {h : HashOrder String}
    {s t : FaultController}
    (hDone : scheduleFaults h s = .done t) :
    StartedUp s t s.scenario.initiallyActiveFaults
      (s.workList h) := by
  rw [scheduleFaults_eq_forEach] at hDone
  apply Outcome.forEach_done
    (I := fun items u =>
      StartedUp s u s.scenario.initiallyActiveFaults items)
    ?_ ?_ hDone
  · rintro items ⟨key, fault⟩ u v hStarted _ hRound
    by_cases hActive :
        fault.id ∈ s.scenario.initiallyActiveFaults
    · exact hStarted.activate hActive
        (scheduleFault_switches hActive hRound)
    · have hIdle := scheduleFault_idle hActive hRound
      exact hStarted.idle hActive hIdle.1 hIdle.2
  · constructor
    · exact fun _ _ => rfl
    · intro key id
      simp
    · intro id
      simp

section ScheduleRegistered

variable {h : HashOrder String}
variable {s t : FaultController}

/- The faults that are active at startup have a flag. -/
theorem isActive_scheduleRegistered_iff
    (hFaults : s.NoFaults)
    (hFlags : s.NoFlags)
    (hDone : scheduleFaults h (registerFaults s) = .done t)
    {fault : FaultConfig}
    (hFault : fault ∈ s.scenario.faults)
    (hRuns : (s.injector? fault.injectorId).isSome = true) :
    t.isActive fault.injectorId fault.id = true ↔
      fault.id ∈ s.scenario.initiallyActiveFaults := by
  have hStarted := startedUp_scheduleFaults hDone
  rw [registerFaults_scenario] at hStarted
  rw [hStarted.flags,
    hFlags.registerFaults fault.injectorId fault.id]
  have hHas :
      (registerFaults s).hasFault fault.injectorId fault.id =
        true :=
    (hasFault_registerFaults_iff hFaults _ _).mpr
      ⟨fault, hFault, rfl, rfl, hRuns⟩
  constructor
  · rintro (hFalse | ⟨_, hIn, _⟩)
    · cases hFalse
    · exact hIn
  · intro hIn
    exact Or.inr
      ⟨hHas, hIn, fault,
        mem_workList_registerFaults h hFault hRuns, rfl⟩

/- They are recorded as active, the others as before. -/
theorem lastState_scheduleRegistered
    (hDone : scheduleFaults h (registerFaults s) = .done t)
    {fault : FaultConfig}
    (hFault : fault ∈ s.scenario.faults)
    (hRuns : (s.injector? fault.injectorId).isSome = true) :
    t.recorder.lastState fault.id =
      if fault.id ∈ s.scenario.initiallyActiveFaults then
        some "active"
      else
        s.recorder.lastState fault.id := by
  have hStarted := startedUp_scheduleFaults hDone
  rw [registerFaults_scenario] at hStarted
  have hItem := mem_workList_registerFaults h hFault hRuns
  rw [hStarted.log, registerFaults_recorder]
  by_cases hIn : fault.id ∈ s.scenario.initiallyActiveFaults
  · rw [if_pos ⟨hIn, _, hItem, rfl⟩, if_pos hIn]
  · rw [if_neg (fun hBoth => hIn hBoth.1), if_neg hIn]

/-
  Registering into empty injectors and scheduling makes the
  log true exactly if no registered fault that is inactive at
  startup was last recorded as active.
-/
theorem eventLogTrue_scheduleRegistered_iff
    (hFaults : s.NoFaults)
    (hFlags : s.NoFlags)
    (hDone : scheduleFaults h (registerFaults s) = .done t) :
    t.EventLogTrue ↔
      ∀ fault ∈ s.scenario.faults,
        (s.injector? fault.injectorId).isSome = true →
          isInitiallyActive fault
              s.scenario.initiallyActiveFaults = false →
            s.recorder.lastState fault.id ≠
              some "active" := by
  have hRegistered :
      ∀ key id,
        t.hasFault key id = true ↔
          ∃ fault ∈ s.scenario.faults,
            fault.injectorId = key ∧ fault.id = id ∧
              (s.injector? key).isSome = true := by
    intro key id
    rw [(startedUp_scheduleFaults hDone).faults]
    exact hasFault_registerFaults_iff hFaults key id
  have hFlag :
      ∀ fault ∈ s.scenario.faults,
        (s.injector? fault.injectorId).isSome = true →
          (t.isActive fault.injectorId fault.id = true ↔
            fault.id ∈ s.scenario.initiallyActiveFaults) :=
    fun _ hFault hRuns =>
      isActive_scheduleRegistered_iff hFaults hFlags hDone
        hFault hRuns
  constructor
  · intro hTrue fault hFault hRuns hIdle hActive
    have hNotIn :
        fault.id ∉ s.scenario.initiallyActiveFaults := by
      simpa [isInitiallyActive] using hIdle
    have hHas :
        t.hasFault fault.injectorId fault.id = true :=
      (hRegistered _ _).mpr ⟨fault, hFault, rfl, rfl, hRuns⟩
    apply hNotIn
    apply (hFlag fault hFault hRuns).mp
    rw [hTrue fault.injectorId fault.id hHas,
      lastState_scheduleRegistered hDone hFault hRuns,
      if_neg hNotIn]
    exact hActive
  · intro hIdle key id hHas
    rw [hRegistered] at hHas
    rcases hHas with ⟨fault, hFault, rfl, rfl, hRuns⟩
    rw [hFlag fault hFault hRuns,
      lastState_scheduleRegistered hDone hFault hRuns]
    by_cases hIn :
        fault.id ∈ s.scenario.initiallyActiveFaults
    · simp [hIn]
    · have hOld :=
        hIdle fault hFault hRuns
          (by simpa [isInitiallyActive] using hIn)
      simp [hIn, hOld]

end ScheduleRegistered

end FaultController

------------------------------------------------------------
-- One Step
------------------------------------------------------------

namespace FaultController

open FaultScheduler FaultServiceManager Transition

/- The flag that an action sets, with its injector. -/
def switched
    (h : HashOrder String)
    (c : FaultController) :
    Action → Option (String × String × Bool)
| .callback n =>
    match c.node.ready n with
    | none => none
    | some e =>
        match e.callback with
        | .startFault key fault => some (key, fault.id, true)
        | .stopFault key fault => some (key, fault.id, false)
        | .member _ => none
| .setFaultState request =>
    match resolveFault h c request.faultId with
    | .error _ => none
    | .ok target =>
        some (target.key, request.faultId, request.active)
| _ => none

/-
  A reload that is accepted lists no fault as inactive that
  was last recorded as active. Any other action that sets a
  flag finds the fault in that state on every other injector.
-/
def LogKept
    (h : HashOrder String)
    (c : FaultController) : Action → Prop
| .reloadScenario content =>
    match c.checkReload h content with
    | .error _ => True
    | .ok newScenario =>
        ∀ fault ∈ newScenario.faults,
          (c.injector? fault.injectorId).isSome = true →
            isInitiallyActive fault
                newScenario.initiallyActiveFaults = false →
              c.recorder.lastState fault.id ≠ some "active"
| a =>
    match c.switched h a with
    | none => True
    | some (key, faultId, value) =>
        ∀ k ∈ c.injectors.keys, k ≠ key →
          c.hasFault k faultId = true →
            c.isActive k faultId = value

instance
    (h : HashOrder String)
    (c : FaultController)
    (a : Action) :
    Decidable (LogKept h c a) := by
  unfold LogKept
  cases a with
  | reloadScenario content =>
      simp only
      cases c.checkReload h content with
      | error result => exact isTrue True.intro
      | ok newScenario => exact inferInstance
  | _ =>
      simp only
      split
      · exact isTrue True.intro
      · exact inferInstance

/- Neither the flags nor the states in the log change. -/
structure SameLog (before after : FaultController) : Prop where
  faults :
    ∀ key id, after.hasFault key id = before.hasFault key id
  flags :
    ∀ key id, after.isActive key id = before.isActive key id
  log :
    ∀ id, after.recorder.lastState id =
      before.recorder.lastState id

/- Both are read off the injectors and the recorder. -/
theorem sameLog_of_fields
    {before after : FaultController}
    (hInjectors : after.injectors = before.injectors)
    (hRecorder : after.recorder = before.recorder) :
    SameLog before after where
  faults key id := by
    unfold FaultController.hasFault FaultController.injector?
    rw [hInjectors]
  flags key id := by
    unfold FaultController.isActive FaultController.injector?
    rw [hInjectors]
  log id := by rw [hRecorder]

section Step

variable {h : HashOrder String}
variable {c after : FaultController}
variable {a : Action}

theorem sameLog_storeValue
    {target : Target}
    {request : SetFaultConfigRequest}
    {updated : FaultInjectorBase}
    (hResolve :
      resolveFault h c request.faultId = .ok target)
    (hSet :
      target.injector.setFaultConfigValue request.faultId
          request.key request.value =
        some updated) :
    SameLog c (storeValue target request updated c) := by
  have hTarget := (resolveFault_eq_ok hResolve).2.1
  constructor
  · apply hasFault_modifyInjector
    intro injector hInjector id
    rw [hTarget, Option.some.injEq] at hInjector
    subst hInjector
    exact FaultInjectorBase.hasFault_of_setFaultConfigValue
      hSet id
  · apply isActive_modifyInjector
    intro injector hInjector id
    rw [hTarget, Option.some.injEq] at hInjector
    subst hInjector
    exact FaultInjectorBase.isActive_of_setFaultConfigValue
      hSet id
  · intro id
    have hRecords :=
      storeValue_records c target request updated
    rw [hRecords.lastState id, if_neg]
    simp

theorem eventLogTrue_sameLog_iff
    (hSame : SameLog c after) :
    after.EventLogTrue ↔ c.EventLogTrue := by
  unfold EventLogTrue
  simp only [hSame.faults, hSame.flags, hSame.log]

/- A fault is registered on an injector that runs. -/
theorem mem_keys_of_hasFault
    {key faultId : String}
    (hHas : c.hasFault key faultId = true) :
    key ∈ c.injectors.keys := by
  rw [UnorderedMap.mem_keys_iff]
  unfold hasFault injector? at hHas
  rw [Option.any_eq_true] at hHas
  rcases hHas with ⟨injector, hFind, _⟩
  exact ⟨injector, hFind⟩

/- A step of the node keeps the log true if it is permitted. -/
theorem eventLogTrue_nodeStep_iff
    (hTrue : c.EventLogTrue)
    (hStep : c.nodeStep h a = some after) :
    after.EventLogTrue ↔ LogKept h c a := by
  have hQuiet :
      SameLog c after → (after.EventLogTrue ↔ True) := by
    intro hSame
    simp [eventLogTrue_sameLog_iff hSame, hTrue]
  have hSwitches :
      ∀ key faultId value,
        Switches c after key faultId value →
          (after.EventLogTrue ↔
            ∀ k ∈ c.injectors.keys, k ≠ key →
              c.hasFault k faultId = true →
                c.isActive k faultId = value) := by
    intro key faultId value hSwitch
    rw [eventLogTrue_switches_iff hTrue hSwitch]
    constructor
    · intro hOthers k _ hOther hHas
      exact hOthers k hOther hHas
    · intro hOthers k hOther hHas
      exact hOthers k (mem_keys_of_hasFault hHas) hOther hHas
  cases took_of_step (nodeStep_eq_some_iff.mp hStep).2 with
  | advanced => exact hQuiet (sameLog_of_fields rfl rfl)
  | started hReady hCallback =>
      unfold LogKept switched
      simp only [hReady, hCallback]
      exact hSwitches _ _ _ (runStart_switches c _ _ _)
  | stopped hReady hCallback =>
      unfold LogKept switched
      simp only [hReady, hCallback]
      exact hSwitches _ _ _ (runStop_switches c _ _ _)
  | member hReady hCallback =>
      unfold LogKept switched
      simp only [hReady, hCallback]
      exact hQuiet (sameLog_of_fields rfl rfl)
  | unresolved hResolve =>
      unfold LogKept switched
      simp only [hResolve]
      exact hQuiet (sameLog_of_fields rfl rfl)
  | switched hResolve =>
      unfold LogKept switched
      simp only [hResolve]
      exact hSwitches _ _ _ (switchFault_switches c _ _)
  | refused => exact hQuiet (sameLog_of_fields rfl rfl)
  | stored hResolve _ _ hUpdate =>
      exact hQuiet (sameLog_storeValue hResolve hUpdate)
  | rejected hCheck =>
      unfold LogKept
      simp only [hCheck]
      exact hQuiet (sameLog_of_fields rfl rfl)
  | reloaded hCheck =>
      unfold LogKept
      simp only [hCheck]
      rw [eventLogTrue_scheduleRegistered_iff
        (noFaults_clearScenario _) (noFlags_clearScenario _)
        (applyReload_done hStep hCheck)]
      simp only [injector?_clearScenario, Option.isSome_map]
      rfl
  | delivered => exact hQuiet (sameLog_of_fields rfl rfl)

end Step

------------------------------------------------------------
-- Whole Runs
------------------------------------------------------------

/- Nothing is recorded before the first activation. -/
theorem eventLogTrue_of_started
    {h : HashOrder String}
    {factory : InjectorConfig → Bool}
    {scenario : ScenarioConfig}
    {c : FaultController}
    (hStarted : Started h factory scenario c) :
    c.EventLogTrue := by
  rcases hStarted with ⟨steadyNow, rosNow, hDone⟩
  let base : FaultController :=
    { node :=
        { steadyNow := steadyNow, rosNow := rosNow }
      scenario := scenario
      generation := 0 }
  unfold construct at hDone
  rcases Outcome.bind_eq_done_iff.mp hDone with
    ⟨s, hSchedule, hEnd⟩
  rw [Outcome.done.injEq] at hEnd
  subst hEnd
  have hRecorder :
      (createInjectors factory
        (startAssertionRunner base)).recorder = {} :=
    setUp_proj factory base FaultController.recorder
      (fun _ _ => rfl) fun _ _ => rfl
  have hTrue : s.EventLogTrue := by
    rw [eventLogTrue_scheduleRegistered_iff
      (noFaults_setUp fun _ _ => rfl)
      (noFlags_setUp fun _ _ => rfl) hSchedule]
    intro fault _ _ _ hActive
    rw [hRecorder] at hActive
    cases hActive
  exact hTrue

/-
  The log tells the truth at every point of a run exactly
  when every action of the run keeps it.
-/
theorem event_log_true_iff
    {h : HashOrder String}
    {factory : InjectorConfig → Bool}
    {scenario : ScenarioConfig}
    {c last : FaultController}
    {actions : List Action}
    (hStarted : Started h factory scenario c)
    (hRun : run (nodeStep h) c actions = some last) :
    Throughout (nodeStep h) EventLogTrue c actions ↔
      Along (nodeStep h) (LogKept h) c actions := by
  have hAll :
      Along (nodeStep h) (fun _ _ => True) c actions :=
    along_of_forall (fun _ _ => True.intro) c actions
  have hInitial := eventLogTrue_of_started hStarted
  apply throughout_iff_along (J := fun _ => True) ?_ ?_
    hInitial True.intro hAll hRun
  · intro s a t _ _ _
    exact True.intro
  · intro s a t _ _ hTrue hStep
    exact eventLogTrue_nodeStep_iff hTrue hStep

end FaultController

------------------------------------------------------------
-- A Reload That Records Nothing
------------------------------------------------------------

namespace FaultController.SilentReload

open FaultServiceManager Transition

/- One fault that is active at startup if it is listed. -/
def scenario (startup : List String) : ScenarioConfig where
  injectors :=
    [{ id := "base", type := "odom",
       topic := some
        { inputTopic := "odom"
          outputTopic := "odom_faulty" } }]
  faults := [{ id := "bias", injectorId := "base" }]
  initiallyActiveFaults := startup

def started : FaultController :=
  (construct .insertion (fun _ => true) {} 0
    (scenario ["bias"])).state

/- The fault is no longer active at startup. -/
def reload : Action :=
  .reloadScenario (.ok (scenario []))

/-
  The reload deactivates the fault, whose last event still
  says `active`.
-/
theorem event_log_false :
    Started .insertion (fun _ => true) (scenario ["bias"])
        started ∧
      (validateScenario .insertion
        (scenario ["bias"])).ok = true ∧
      started.reloadScenarioResult .insertion
          (.ok (scenario [])) =
        some ⟨true, "Scenario reloaded successfully"⟩ ∧
      ¬ Throughout (nodeStep .insertion) EventLogTrue started
          [reload] := by
  refine ⟨⟨0, 0, by rfl⟩, by decide, by decide, ?_⟩
  intro hThroughout
  have hAfter :
      (run (nodeStep .insertion) started [reload]).any
        (fun c =>
          c.hasFault "base" "bias" &&
            (!c.isActive "base" "bias" &&
              decide (c.recorder.lastState "bias" =
                some "active"))) = true := by
    decide
  rw [Option.any_eq_true] at hAfter
  rcases hAfter with ⟨c, hRun, hState⟩
  simp only [Bool.and_eq_true, Bool.not_eq_true',
    decide_eq_true_eq] at hState
  rcases hState with ⟨hHas, hInactive, hLast⟩
  have hTrue :=
    throughout_iff.mp hThroughout [reload] [] c rfl hRun
  have hActive := (hTrue "base" "bias" hHas).mpr hLast
  rw [hInactive] at hActive
  cases hActive

/- Deactivated by a request first, the reload is harmless. -/
theorem event_log_true_of_request :
    Throughout (nodeStep .insertion) EventLogTrue started
      [.setFaultState ⟨"bias", false⟩, reload] := by
  have hStarted :
      Started .insertion (fun _ => true) (scenario ["bias"])
        started :=
    ⟨0, 0, by rfl⟩
  have hSome :
      (run (nodeStep .insertion) started
        [.setFaultState ⟨"bias", false⟩,
          reload]).isSome = true := by
    decide
  rcases Option.isSome_iff_exists.mp hSome with ⟨last, hRun⟩
  apply (event_log_true_iff hStarted hRun).mpr
  decide

end FaultController.SilentReload
