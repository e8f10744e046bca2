import Mathlib.Data.List.Infix
import FaultInjection.Core.RegisteredFaults
import FaultInjection.Core.TimerLifetime

/-
  Whether an event tells the parameters that its fault has.

  A request to switch a fault describes the stored fault. A
  timer describes the copy of the fault that it captured when
  it was created, which later updates do not change.

  Key definitions include:
    * `Occurs`
    * `FaultController.TellsStored`
    * `FaultController.RecordsStored`
    * `FaultController.ReadsAsListed`
    * `FaultController.TimerMatches`
    * `FaultController.UpdatesAfterTimers`

  Key theorems include:
    * `FaultController.allTellStored_of_started`
    * `FaultController.recordsStored_iff`
    * `FaultController.details_tell_stored_iff`
-/

------------------------------------------------------------
-- Texts Inside Texts
------------------------------------------------------------

/- The text has the part somewhere inside it. -/
def Occurs (part text : String) : Prop :=
  part.toList <:+: text.toList

instance Occurs.decidable (part text : String) :
    Decidable (Occurs part text) :=
  inferInstanceAs (Decidable (part.toList <:+: text.toList))

theorem occurs_self (text : String) : Occurs text text :=
  List.infix_rfl

/- The last of several joined texts. -/
theorem occurs_intercalate_last
    {separator last : String}
    {parts : List String}
    (hParts : parts ≠ []) :
    Occurs last (separator.intercalate (parts ++ [last])) := by
  unfold Occurs
  rw [String.intercalate_append_of_ne_nil hParts (by simp),
    String.intercalate_singleton, String.toList_append]
  exact (List.suffix_append _ _).isInfix

/- The description of a fault ends with its parameters. -/
theorem occurs_describeFault (fault : FaultConfig) :
    Occurs (describeConfig fault.config)
      (describeFault fault) := by
  unfold describeFault
  apply occurs_intercalate_last
  cases fault.start with
  | none => simp
  | some start => simp

------------------------------------------------------------
-- Events About The Stored Fault
------------------------------------------------------------

namespace Callback

/- The injector and the fault that a timer captured. -/
def captured : Callback → Option (String × FaultConfig)
| .startFault key fault => some (key, fault)
| .stopFault key fault => some (key, fault)
| .member _ => none

end Callback

namespace FaultController

open FaultScheduler FaultServiceManager Transition
open FaultEventRecorder

/-
  The details of the event contain the parameters stored for
  its fault in the injector that it names.
-/
def TellsStored
    (c : FaultController)
    (record : FaultEventRecord) : Prop :=
  ∃ stored,
    c.faultConfig record.injectorId record.faultId =
        some stored ∧
      Occurs (describeConfig stored.config) record.details

/- The same of all events that tell a state of a fault. -/
def AllTellStored
    (c : FaultController)
    (events : List FaultEventRecord) : Prop :=
  ∀ record ∈ events,
    tellsState record = true → c.TellsStored record

/-
  The events that the action records tell the parameters
  stored when it has recorded them.
-/
def RecordsStored
    (h : HashOrder String)
    (c : FaultController)
    (a : Action) : Prop :=
  ∀ after new, c.step h a = some after →
    after.recorder.events = c.recorder.events ++ new →
      after.AllTellStored new

/-
  The parameters stored for the fault read as the scenario
  lists them, or their description occurs in that one.
-/
def ReadsAsListed
    (c : FaultController)
    (key faultId : String) : Prop :=
  ∀ listed ∈ c.scenario.faults,
    listed.id = faultId →
      ∀ stored,
        c.faultConfig key faultId = some stored →
          Occurs (describeConfig stored.config)
            (describeConfig listed.config)

/- A timer runs only for a fault that reads as it is listed. -/
def TimerMatches
    (c : FaultController)
    (a : Action) : Prop :=
  ∀ n e key fault,
    a = .callback n →
      c.node.ready n = some e →
        e.callback.captured = some (key, fault) →
          c.ReadsAsListed key fault.id

/- No accepted update is for a fault with a pending timer. -/
def UpdatesAfterTimers
    (h : HashOrder String)
    (c : FaultController)
    (a : Action) : Prop :=
  ∀ request,
    a = .setFaultConfig request →
      (handleSetFaultConfig h request c).2.success = true →
        ∀ e ∈ c.node.entities, ∀ key fault,
          e.callback.captured = some (key, fault) →
            fault.id = request.faultId →
              e.cancelled = true

section Reports

variable {c after : FaultController}
variable {key faultId details : String}
variable {record : FaultEventRecord}

/-
  A change records one event that tells a state of a fault
  and leaves the registered faults as they are.
-/
structure Reports
    (c after : FaultController)
    (key faultId details : String)
    (record : FaultEventRecord) : Prop where
  events :
    after.recorder.events = c.recorder.events ++ [record]
  injector : record.injectorId = c.injectorId key
  fault : record.faultId = faultId
  details : record.details = details
  tells : tellsState record = true
  kept : SameFaults after c

/- What the new event has to contain. -/
theorem Reports.allTellStored_iff
    (hReports : Reports c after key faultId details record)
    (hNamed : c.injectorId key = key)
    {new : List FaultEventRecord}
    (hNew :
      after.recorder.events = c.recorder.events ++ new) :
    after.AllTellStored new ↔
      ∃ stored,
        c.faultConfig key faultId = some stored ∧
          Occurs (describeConfig stored.config) details := by
  rw [hReports.events] at hNew
  have hSingle := List.append_cancel_left hNew
  subst hSingle
  have hSame := hReports.kept.faultConfig key faultId
  unfold AllTellStored TellsStored
  simp only [List.mem_singleton, forall_eq, hReports.tells,
    forall_true_left, hReports.injector, hNamed,
    hReports.fault, hReports.details, hSame]

/-
  A change that publishes an event of a switched fault with
  the id of the injector reports the fault.
-/
theorem Switches.reports
    {value : Bool}
    (hSwitch : Switches c after key faultId value)
    (hEvents :
      after.recorder.events = c.recorder.events ++ [record])
    (hInjector : record.injectorId = after.injectorId key)
    (hState : record.state = stateText value) :
    Reports c after key faultId record.details record := by
  have hKept := hSwitch.sameFaults
  rcases hSwitch.recorded with
    ⟨_, other, hOther, hFault, _, _⟩
  have hSame : other = record := by
    rw [hOther] at hEvents
    simpa using hEvents
  refine ⟨hEvents, ?_, ?_, rfl, ?_, hKept⟩
  · rw [hInjector, hKept.sameInjectors.injectorId]
  · rw [← hSame, hFault]
  · unfold tellsState
    rw [hState]
    cases value with
    | true => decide
    | false => decide

theorem activateNow_reports
    (c : FaultController)
    (key : String)
    (fault : FaultConfig) :
    ∃ record,
      Reports c (activateNow key fault c) key fault.id
        (describeConfig fault.config) record :=
  ⟨_, (activateNow_switches c key fault).reports rfl rfl rfl⟩

/- A timer describes the fault that it captured. -/
theorem runCallback_reports
    (c : FaultController)
    (n : Nat)
    {key : String}
    {fault : FaultConfig}
    {callback : Callback}
    (hTimer : callback.captured = some (key, fault)) :
    ∃ record,
      Reports c (c.runCallback n callback) key fault.id
        (describeConfig fault.config) record := by
  cases callback with
  | startFault timerKey timerFault =>
      simp only [Callback.captured, Option.some.injEq,
        Prod.mk.injEq] at hTimer
      rcases hTimer with ⟨hKey, hFault⟩
      subst hKey hFault
      exact
        ⟨_, (runStart_switches c timerKey timerFault n).reports
          rfl rfl rfl⟩
  | stopFault timerKey timerFault =>
      simp only [Callback.captured, Option.some.injEq,
        Prod.mk.injEq] at hTimer
      rcases hTimer with ⟨hKey, hFault⟩
      subst hKey hFault
      exact
        ⟨_, (runStop_switches c timerKey timerFault n).reports
          rfl rfl rfl⟩
  | member m => cases hTimer

/- A request to switch a fault describes the stored fault. -/
theorem switchFault_reports
    {h : HashOrder String}
    {c : FaultController}
    {request : SetFaultStateRequest}
    {target : Target}
    (hResolve :
      resolveFault h c request.faultId = .ok target) :
    ∃ record,
      Reports c (switchFault target request c) target.key
        request.faultId (describeFault target.fault)
        record := by
  have hSwitch := switchFault_switches c target request
  have hInjector := (resolveFault_eq_ok hResolve).2.1
  have hId : target.injector.id = c.injectorId target.key := by
    unfold FaultController.injectorId
    rw [hInjector]
  have hSame :=
    hSwitch.sameFaults.sameInjectors.injectorId target.key
  exact ⟨_, hSwitch.reports rfl (hId.trans hSame.symm) rfl⟩

end Reports

------------------------------------------------------------
-- Startup
------------------------------------------------------------

section Startup

variable {h : HashOrder String}
variable {factory : InjectorConfig → Bool}
variable {scenario : ScenarioConfig}
variable {c : FaultController}

theorem SameFaults.allTellStored_iff
    {a b : FaultController}
    (hSame : SameFaults a b)
    {events : List FaultEventRecord} :
    a.AllTellStored events ↔ b.AllTellStored events := by
  unfold AllTellStored TellsStored
  simp only [hSame.faultConfig]

/- Each injector that runs has its own id as its key. -/
def Named (c : FaultController) : Prop :=
  c.Configured fun key config => config.id = key

theorem Named.injectorId
    (hNamed : c.Named)
    (key : String) :
    c.injectorId key = key := by
  unfold FaultController.injectorId
  cases hInjector : c.injector? key with
  | none => exact rfl
  | some injector => exact hNamed key injector hInjector

theorem named_of_started
    (hStarted : Started h factory scenario c) :
    c.Named :=
  configured_of_started (fun _ _ => rfl) hStarted

/- With distinct ids each fault is stored as it is listed. -/
theorem faultConfig_of_started
    (hStarted : Started h factory scenario c)
    (hIds : (scenario.faults.map FaultConfig.id).Nodup)
    {fault : FaultConfig}
    (hFault : fault ∈ scenario.faults)
    (hRuns : (c.injector? fault.injectorId).isSome = true) :
    c.faultConfig fault.injectorId fault.id = some fault := by
  rcases hStarted with ⟨steadyNow, rosNow, hConstruct⟩
  have hStored :=
    faultConfig_of_construct hConstruct fault.injectorId
  rw [hStored.2 fault.id, if_pos (hStored.1.mp hRuns)]
  exact lastFault_eq_of_nodup hIds hFault

/- The same for what the constructor schedules. -/
theorem faultConfig_of_workItem
    (hStarted : Started h factory scenario c)
    (hIds : (scenario.faults.map FaultConfig.id).Nodup)
    {registered : FaultController}
    (hSetUp : SetUp scenario registered)
    (hSame : SameFaults c registered)
    {key : String}
    {fault : FaultConfig}
    (hItem : (key, fault) ∈ registered.workList h) :
    fault ∈ scenario.faults ∧
      c.faultConfig key fault.id = some fault := by
  rw [mem_workList_iff, hSetUp.loaded] at hItem
  rcases hItem with ⟨hFault, hKey, hRuns⟩
  rw [← Option.isSome_iff_exists, ← hSame.isSome,
    ← hKey] at hRuns
  rw [← hKey]
  exact ⟨hFault, faultConfig_of_started hStarted hIds hFault
    hRuns⟩

/-
  At startup each event tells the parameters that are stored:
  all faults are registered before the first is scheduled.
-/
theorem allTellStored_of_started
    (hStarted : Started h factory scenario c)
    (hIds : (scenario.faults.map FaultConfig.id).Nodup) :
    c.AllTellStored c.recorder.events := by
  rcases scheduled_of_started hStarted with
    ⟨registered, t, hSetUp, hSchedule, hEnd⟩
  have hSame := sameFaults_of_scheduled hSchedule hEnd
  have hNamed : registered.Named :=
    hSame.sameInjectors.symm.configured
      (named_of_started hStarted)
  have hScheduled :
      SameFaults (scheduleFaults h registered).state
          registered ∧
        registered.AllTellStored
          (scheduleFaults h registered).state.recorder.events := by
    apply scheduleFaults_state
      (P := fun s =>
        SameFaults s registered ∧
          registered.AllTellStored s.recorder.events)
    · intro key fault s hItem _ hState
      rcases activateNow_reports s key fault with
        ⟨record, hReports⟩
      have hAfter := hReports.kept.trans hState.1
      refine ⟨hAfter, ?_⟩
      have hId : s.injectorId key = key := by
        rw [hState.1.sameInjectors.injectorId]
        exact hNamed.injectorId key
      have hStored :=
        (faultConfig_of_workItem hStarted hIds hSetUp hSame
          hItem).2
      rw [hSame.faultConfig, ← hState.1.faultConfig]
        at hStored
      have hNew :=
        (hReports.allTellStored_iff hId
          hReports.events).mpr
          ⟨fault, hStored, occurs_self _⟩
      rw [hAfter.allTellStored_iff] at hNew
      rw [hReports.events]
      intro other hOther
      rcases List.mem_append.mp hOther with hOld | hLast
      · exact hState.2 other hOld
      · exact hNew other hLast
    · exact fun _ _ _ _ _ _ _ _ hState => hState
    · refine ⟨SameFaults.refl registered, ?_⟩
      rw [hSetUp.empty]
      intro other hOther
      cases hOther
  rw [hSchedule] at hScheduled
  rw [hSame.allTellStored_iff, hEnd]
  exact hScheduled.2

/- The timers scheduled for a fault capture it. -/
theorem captured_of_mem_faultTimers
    {initiallyActiveFaults : List String}
    {key : String}
    {fault : FaultConfig}
    {callback : Callback}
    {delay : Int}
    (hTimer :
      (callback, delay) ∈
        faultTimers initiallyActiveFaults key fault) :
    callback.captured = some (key, fault) := by
  rcases callback_of_mem_faultTimers hTimer with
    hStart | hStop
  · change callback = _ at hStart
    rw [hStart]
    exact rfl
  · change callback = _ at hStop
    rw [hStop]
    exact rfl

/- A timer of a started controller captured a stored fault. -/
theorem captured_of_started
    (hStarted : Started h factory scenario c)
    (hIds : (scenario.faults.map FaultConfig.id).Nodup)
    {e : CallbackEntity Callback}
    (hEntity : e ∈ c.node.entities)
    {key : String}
    {fault : FaultConfig}
    (hTimer : e.callback.captured = some (key, fault)) :
    fault ∈ scenario.faults ∧
      c.faultConfig key fault.id = some fault := by
  rcases scheduled_of_started hStarted with
    ⟨registered, t, hSetUp, hSchedule, hEnd⟩
  have hSame := sameFaults_of_scheduled hSchedule hEnd
  have hTimers :
      ∀ e ∈ (scheduleFaults h registered).state.node.entities,
        ∀ key fault,
          e.callback.captured = some (key, fault) →
            (key, fault) ∈ registered.workList h := by
    apply scheduleFaults_state
      (P := fun s =>
        ∀ e ∈ s.node.entities, ∀ key fault,
          e.callback.captured = some (key, fault) →
            (key, fault) ∈ registered.workList h)
    · exact fun _ _ _ _ _ hState => hState
    · intro itemKey itemFault callback delay s hItem hMember _
        hState e hEntity key fault hTimer
      rcases List.mem_append.mp hEntity with hOld | hNew
      · exact hState e hOld key fault hTimer
      · rw [List.mem_singleton.mp hNew] at hTimer
        change callback.captured = _ at hTimer
        rw [captured_of_mem_faultTimers hMember,
          Option.some.injEq] at hTimer
        rw [← hTimer]
        exact hItem
    · intro e hEntity key fault hTimer
      rcases hSetUp.members e hEntity with ⟨m, hMember⟩
      rw [hMember] at hTimer
      cases hTimer
  rw [hSchedule] at hTimers
  rw [hEnd] at hEntity
  rcases List.mem_append.mp hEntity with hOld | hNew
  · exact faultConfig_of_workItem hStarted hIds hSetUp hSame
      (hTimers e hOld key fault hTimer)
  · rw [List.mem_singleton.mp hNew] at hTimer
    cases hTimer

end Startup

------------------------------------------------------------
-- Runs
------------------------------------------------------------

/-
  The scenario has distinct ids, and each timer captured one
  of its faults, which is registered.
-/
structure TimersCaptured (c : FaultController) : Prop where
  ids : (c.scenario.faults.map FaultConfig.id).Nodup
  named : c.Named
  timers :
    ∀ e ∈ c.node.entities, ∀ key fault,
      e.callback.captured = some (key, fault) →
        fault ∈ c.scenario.faults ∧
          c.hasFault key fault.id = true

/- A pending timer captured what is still stored. -/
def PendingMatch (c : FaultController) : Prop :=
  ∀ e ∈ c.node.entities, ∀ key fault,
    e.callback.captured = some (key, fault) →
      e.cancelled = false →
        c.faultConfig key fault.id = some fault

/- The action is no reload. -/
def NoReload (a : Action) : Prop :=
  ∀ content, a ≠ .reloadScenario content

section Runs

variable {h : HashOrder String}
variable {c after : FaultController}
variable {a : Action}

/- Without a reload no timer is created. -/
theorem entities_step
    (hNoReload : NoReload a)
    (hStep : c.step h a = some after)
    {e : CallbackEntity Callback}
    (hEntity : e ∈ after.node.entities) :
    ∃ old ∈ c.node.entities,
      e = old ∨ e = { old with cancelled := true } := by
  revert e
  refine step_keeps
    (P := fun s =>
      ∀ {e}, e ∈ s.node.entities →
        ∃ old ∈ c.node.entities,
          e = old ∨ e = { old with cancelled := true })
    ?_ ?_ ?_ ?_ ?_ ?_ ?_ ?_ hStep
  · exact fun _ _ _ e hEntity => ⟨e, hEntity, Or.inl rfl⟩
  · intro n e key fault _ _ _ other hEntity
    exact CallbackNode.mem_cancel_entities hEntity
  · intro n e key fault _ _ _ other hEntity
    exact CallbackNode.mem_cancel_entities hEntity
  · exact fun _ _ _ _ e hEntity => ⟨e, hEntity, Or.inl rfl⟩
  · intro request target field updated _ _ _ _ _ e hEntity
    exact ⟨e, hEntity, Or.inl rfl⟩
  · intro content newScenario hReload _
    exact absurd hReload (hNoReload content)
  · exact fun _ _ _ e hEntity => ⟨e, hEntity, Or.inl rfl⟩
  · exact fun {e} hEntity => ⟨e, hEntity, Or.inl rfl⟩

theorem TimersCaptured.step
    (hCaptured : c.TimersCaptured)
    (hNoReload : NoReload a)
    (hStep : c.step h a = some after) :
    after.TimersCaptured := by
  have hScenario := scenario_step hNoReload hStep
  refine ⟨?_, ?_, ?_⟩
  · rw [hScenario]
    exact hCaptured.ids
  · exact (sameInjectors_step hStep).configured
      hCaptured.named
  · intro e hEntity key fault hTimer
    rcases entities_step hNoReload hStep hEntity with
      ⟨old, hOld, hKept⟩
    have hSame : e.callback = old.callback := by
      rcases hKept with hKept | hCancelled
      · rw [hKept]
      · rw [hCancelled]
    rw [hSame] at hTimer
    rw [hScenario, hasFault_step hNoReload hStep]
    exact hCaptured.timers old hOld key fault hTimer

/- What storing a value does to the other faults. -/
theorem faultConfig_storeValue_of_ne
    {request : SetFaultConfigRequest}
    {target : Target}
    {updated : FaultInjectorBase}
    (hResolve :
      resolveFault h c request.faultId = .ok target)
    (hSet :
      target.injector.setFaultConfigValue request.faultId
          request.key request.value =
        some updated)
    {key faultId : String}
    (hOther : request.faultId ≠ faultId) :
    (storeValue target request updated c).faultConfig key
        faultId =
      c.faultConfig key faultId := by
  have hTarget := (resolveFault_eq_ok hResolve).2.1
  rcases FaultInjectorBase.setFaultConfigValue_eq_some hSet
    with ⟨_, _, fault, _, hFaults⟩
  change
    (c.modifyInjector target.key fun _ => updated).faultConfig
        key faultId =
      c.faultConfig key faultId
  unfold FaultController.faultConfig
  rw [injector?_modifyInjector]
  split
  · rename_i hKey
    rw [← hKey, hTarget, Option.map_some, Option.bind_some,
      Option.bind_some]
    unfold FaultInjectorBase.getFaultConfig
    rw [hFaults, UnorderedMap.find?_insert, if_neg hOther]
  · exact rfl

/- Only an accepted update of a fault changes what is stored. -/
theorem faultConfig_step
    (hNoReload : NoReload a)
    {key faultId : String}
    (hOthers :
      ∀ request,
        a = .setFaultConfig request →
          (handleSetFaultConfig h request c).2.success =
              true →
            request.faultId ≠ faultId)
    (hStep : c.step h a = some after) :
    after.faultConfig key faultId =
      c.faultConfig key faultId := by
  refine step_keeps
    (P := fun s =>
      s.faultConfig key faultId = c.faultConfig key faultId)
    ?_ ?_ ?_ ?_ ?_ ?_ ?_ rfl hStep
  · exact fun _ _ _ => rfl
  · intro n e k fault _ _ _
    exact (runStart_switches c k fault
      n).sameFaults.faultConfig key faultId
  · intro n e k fault _ _ _
    exact (runStop_switches c k fault
      n).sameFaults.faultConfig key faultId
  · intro request target _ _
    exact (switchFault_switches c target
      request).sameFaults.faultConfig key faultId
  · intro request target field updated hAction hResolve hField
      hValue hSet
    have hAccepted :=
      setFaultConfig_success_iff.mpr
        ⟨target, field, hResolve, hField, hValue⟩
    exact faultConfig_storeValue_of_ne hResolve hSet
      (hOthers request hAction hAccepted)
  · intro content newScenario hReload _
    exact absurd hReload (hNoReload content)
  · exact fun _ _ _ => rfl

/- Updates after the timers keep the pending timers right. -/
theorem PendingMatch.step
    (hMatch : c.PendingMatch)
    (hNoReload : NoReload a)
    (hUpdates : UpdatesAfterTimers h c a)
    (hStep : c.step h a = some after) :
    after.PendingMatch := by
  intro e hEntity key fault hTimer hPending
  rcases entities_step hNoReload hStep hEntity with
    ⟨old, hOld, hKept | hCancelled⟩
  · subst hKept
    rw [faultConfig_step hNoReload ?_ hStep]
    · exact hMatch e hOld key fault hTimer hPending
    · intro request hAction hAccepted hSame
      have hRan :=
        hUpdates request hAction hAccepted e hOld key fault
          hTimer hSame.symm
      rw [hPending] at hRan
      cases hRan
  · rw [hCancelled] at hPending
    cases hPending

/- A pending timer that captured what is stored matches. -/
theorem PendingMatch.timerMatches
    (hMatch : c.PendingMatch)
    (hCaptured : c.TimersCaptured) :
    c.TimerMatches a := by
  intro n e key fault _ hReady hTimer listed hListed hId
    stored hStored
  rcases CallbackNode.ready_eq_some_iff.mp hReady with
    ⟨hAt, hPending, _, _⟩
  have hEntity := List.mem_of_getElem? hAt
  have hFault :=
    (hCaptured.timers e hEntity key fault hTimer).1
  have hSame : listed = fault :=
    List.inj_on_of_nodup_map hCaptured.ids hListed hFault hId
  rw [hMatch e hEntity key fault hTimer hPending,
    Option.some.injEq] at hStored
  rw [hSame, ← hStored]
  exact occurs_self _

/- What a timer records tells what is stored if it matches. -/
theorem allTellStored_timer_iff
    (hCaptured : c.TimersCaptured)
    {n : Nat}
    {e : CallbackEntity Callback}
    {key : String}
    {fault : FaultConfig}
    (hReady : c.node.ready n = some e)
    (hTimer : e.callback.captured = some (key, fault))
    {new : List FaultEventRecord}
    (hNew :
      (c.runCallback n e.callback).recorder.events =
        c.recorder.events ++ new) :
    (c.runCallback n e.callback).AllTellStored new ↔
      c.ReadsAsListed key fault.id := by
  rcases runCallback_reports c n hTimer with
    ⟨record, hReports⟩
  rw [hReports.allTellStored_iff
    (hCaptured.named.injectorId key) hNew]
  have hAt :=
    (CallbackNode.ready_eq_some_iff.mp hReady).1
  rcases hCaptured.timers e (List.mem_of_getElem? hAt) key
      fault hTimer with
    ⟨hFault, hHas⟩
  rcases hasFault_iff_faultConfig.mp hHas with
    ⟨stored, hStored⟩
  constructor
  · intro hTold listed hListed hId other hOther
    rcases hTold with ⟨found, hFound, hOccurs⟩
    have hSame : listed = fault :=
      List.inj_on_of_nodup_map hCaptured.ids hListed hFault
        hId
    rw [hOther, Option.some.injEq] at hFound
    rw [hSame, hFound]
    exact hOccurs
  · intro hReads
    exact ⟨stored, hStored,
      hReads fault hFault rfl stored hStored⟩

theorem allTellStored_of_events_eq
    {s : FaultController}
    (hSame : s.recorder.events = c.recorder.events)
    {new : List FaultEventRecord}
    (hNew :
      s.recorder.events = c.recorder.events ++ new) :
    s.AllTellStored new := by
  rw [hSame, List.self_eq_append_right] at hNew
  rw [hNew]
  intro record hRecord
  cases hRecord

theorem allTellStored_switchFault
    (hNamed : c.Named)
    {request : SetFaultStateRequest}
    {target : Target}
    (hResolve :
      resolveFault h c request.faultId = .ok target)
    {new : List FaultEventRecord}
    (hNew :
      (switchFault target request c).recorder.events =
        c.recorder.events ++ new) :
    (switchFault target request c).AllTellStored new := by
  rcases switchFault_reports hResolve with ⟨record, hReports⟩
  rw [hReports.allTellStored_iff
    (hNamed.injectorId target.key) hNew]
  have hTarget := (resolveFault_eq_ok hResolve).2
  refine ⟨target.fault, ?_, occurs_describeFault _⟩
  unfold FaultController.faultConfig
  rw [hTarget.1, Option.bind_some]
  exact hTarget.2

/- An update tells no state. -/
theorem allTellStored_storeValue
    {request : SetFaultConfigRequest}
    {target : Target}
    {updated : FaultInjectorBase}
    {new : List FaultEventRecord}
    (hNew :
      (storeValue target request updated
          c).recorder.events =
        c.recorder.events ++ new) :
    (storeValue target request updated
      c).AllTellStored new := by
  rcases storeValue_records c target request updated with
    ⟨record, hEvents, _, hState, _⟩
  rw [hEvents] at hNew
  have hSingle := List.append_cancel_left hNew
  intro other hOther hTells
  rw [← hSingle, List.mem_singleton] at hOther
  unfold tellsState at hTells
  rw [hOther, hState] at hTells
  exact absurd hTells (by decide)

/-
  An action that is no reload records events that tell the
  stored parameters exactly if the timer it runs matches.
-/
theorem recordsStored_iff
    (hCaptured : c.TimersCaptured)
    (hNoReload : NoReload a) :
    RecordsStored h c a ↔ c.TimerMatches a := by
  constructor
  · intro hRecords n e key fault hAction hReady hTimer
    subst hAction
    rcases runCallback_reports c n hTimer with
      ⟨record, hReports⟩
    have hFire :
        c.step h (.callback n) =
          some (c.runCallback n e.callback) :=
      fire_eq_some_iff.mpr ⟨e, hReady, rfl⟩
    have hAll := hRecords _ [record] hFire hReports.events
    rw [allTellStored_timer_iff hCaptured hReady hTimer
      hReports.events] at hAll
    exact hAll
  · intro hMatches after new hStep
    have hTimed :
        ∀ n e key fault,
          a = .callback n →
            c.node.ready n = some e →
              e.callback.captured = some (key, fault) →
                (c.runCallback n
                      e.callback).recorder.events =
                    c.recorder.events ++ new →
                  (c.runCallback n
                    e.callback).AllTellStored new := by
      intro n e key fault hAction hReady hTimer hMore
      rw [allTellStored_timer_iff hCaptured hReady hTimer
        hMore]
      exact hMatches n e key fault hAction hReady hTimer
    refine step_keeps
      (P := fun s =>
        s.recorder.events = c.recorder.events ++ new →
          s.AllTellStored new)
      ?_ ?_ ?_ ?_ ?_ ?_ ?_ ?_ hStep
    · exact fun _ _ _ => allTellStored_of_events_eq rfl
    · intro n e key fault hAction hReady hCallback
      have hTold :=
        hTimed n e key fault hAction hReady
          (by rw [hCallback]; rfl)
      rw [hCallback] at hTold
      exact hTold
    · intro n e key fault hAction hReady hCallback
      have hTold :=
        hTimed n e key fault hAction hReady
          (by rw [hCallback]; rfl)
      rw [hCallback] at hTold
      exact hTold
    · intro request target _ hResolve
      exact allTellStored_switchFault hCaptured.named hResolve
    · intro request target field updated _ _ _ _ _
      exact allTellStored_storeValue
    · intro content newScenario hReload _
      exact absurd hReload (hNoReload content)
    · exact fun _ _ _ => allTellStored_of_events_eq rfl
    · exact allTellStored_of_events_eq rfl

variable {factory : InjectorConfig → Bool}
variable {scenario : ScenarioConfig}
variable {start : FaultController}
variable {actions : List Action}

/-
  Startup events tell what is stored. In a run without reload
  all later events do exactly if timers run only for faults
  whose parameters read as they are listed. That is so if all
  accepted updates come after the timers of their fault.
-/
theorem details_tell_stored_iff
    (hIds : (scenario.faults.map FaultConfig.id).Nodup)
    (hStarted : Started h factory scenario start)
    (hNoReload : ∀ a ∈ actions, NoReload a) :
    start.AllTellStored start.recorder.events ∧
      (Along (step h) (RecordsStored h) start actions ↔
        Along (step h) TimerMatches start actions) ∧
        (Along (step h) (UpdatesAfterTimers h) start actions →
          Along (step h) (RecordsStored h) start actions) := by
  have hScenario := scenario_of_started hStarted
  have hCaptured : start.TimersCaptured := by
    refine ⟨?_, named_of_started hStarted, ?_⟩
    · rw [hScenario]
      exact hIds
    · intro e hEntity key fault hTimer
      rcases captured_of_started hStarted hIds hEntity hTimer
        with ⟨hFault, hStored⟩
      rw [hScenario, hasFault_iff_faultConfig]
      exact ⟨hFault, fault, hStored⟩
  have hMatch : start.PendingMatch := by
    intro e hEntity key fault hTimer _
    exact (captured_of_started hStarted hIds hEntity hTimer).2
  have hDomain :
      Along (step h) (fun _ a => NoReload a) start actions :=
    along_of_mem (fun a hMember _ => hNoReload a hMember) start
  have hSame :
      Along (step h) (RecordsStored h) start actions ↔
        Along (step h) TimerMatches start actions := by
    refine along_iff_of_invariant (I := TimersCaptured)
      ?_ ?_ hCaptured hDomain
    · exact fun s a t hS hA hT => hS.step hA hT
    · exact fun s a hS hA => recordsStored_iff hS hA
  refine ⟨allTellStored_of_started hStarted hIds, hSame, ?_⟩
  intro hUpdates
  rw [hSame]
  refine along_of_invariant
    (I := fun s => s.TimersCaptured ∧ s.PendingMatch)
    ?_ ?_ ⟨hCaptured, hMatch⟩ (along_and hDomain hUpdates)
  · intro s a t hS hA hT
    exact ⟨hS.1.step hA.1 hT, hS.2.step hA.1 hA.2 hT⟩
  · intro s a hS _
    exact hS.2.timerMatches hS.1

end Runs

end FaultController

------------------------------------------------------------
-- An Update Before The Start
------------------------------------------------------------

namespace FaultController.EarlyUpdate

open FaultServiceManager Transition

/- A fault that starts after one second. -/
def scenario : ScenarioConfig where
  injectors :=
    [{ id := "base", type := "odom",
       topic := some
        { inputTopic := "odom"
          outputTopic := "odom_faulty" } }]
  faults :=
    [{ id := "bias", injectorId := "base",
       start := some 1000
       config := .ofList [("x_bias", "1.0")] }]

def started : FaultController :=
  (construct .insertion (fun _ => true) {} 0 scenario).state

def update : Action :=
  .setFaultConfig ⟨"bias", "x_bias", "2.0"⟩

/- The start timer is entity 3. -/
def runTimer : List Action :=
  [.advance 1000000000 0, .callback 3]

/- What the timer records when it runs after the update. -/
def timerRecord : FaultEventRecord where
  faultId := "bias"
  injectorId := "base"
  state := "active"
  source := "scheduled"
  details := "config=\x7bx_bias=1.0\x7d"
  stamp := 0

/- The event tells the bias that was replaced before. -/
theorem details_tell_replaced :
    ¬ ∀ (scenario : ScenarioConfig)
        (start : FaultController)
        (actions : List Action),
      (validateScenario .insertion scenario).ok = true →
        (scenario.faults.map FaultConfig.id).Nodup →
          Started .insertion (fun _ => true) scenario start →
            (∀ a ∈ actions, NoReload a) →
              start.AllTellStored start.recorder.events ∧
                Along (step .insertion)
                  (RecordsStored .insertion) start
                  actions := by
  intro hAll
  have hStarted :
      Started .insertion (fun _ => true) scenario started :=
    ⟨0, 0, by rfl⟩
  have hNoReload :
      ∀ a ∈ [update, .advance 1000000000 0] ++ [.callback 3],
        NoReload a := by
    intro a hMember content
    simp only [update, List.cons_append, List.nil_append,
      List.mem_cons, List.not_mem_nil, or_false] at hMember
    rcases hMember with hA | hA | hA
    · simp [hA]
    · simp [hA]
    · simp [hA]
  have hAlong :=
    (hAll scenario started _ (by decide +kernel) (by decide)
      hStarted hNoReload).2
  rw [along_append_iff] at hAlong
  have hLast :
      (run (step .insertion) started
          [update, .advance 1000000000 0]).any
          (fun c =>
            (c.step .insertion (.callback 3)).any fun after =>
              decide
                (after.recorder.events =
                    c.recorder.events ++ [timerRecord] ∧
                  after.faultConfig "base" "bias" =
                    some
                      { id := "bias", injectorId := "base"
                        start := some 1000
                        config :=
                          .ofList [("x_bias", "2.0")] })) =
        true := by
    decide +kernel
  rw [Option.any_eq_true] at hLast
  rcases hLast with ⟨c, hRun, hLast⟩
  rw [Option.any_eq_true] at hLast
  rcases hLast with ⟨after, hStep, hEnd⟩
  rw [decide_eq_true_iff] at hEnd
  rcases (hAlong.2 c hRun).1 after [timerRecord] hStep hEnd.1
      timerRecord (List.mem_singleton_self _) (by decide) with
    ⟨stored, hStored, hOccurs⟩
  change after.faultConfig "base" "bias" = _ at hStored
  rw [hEnd.2, Option.some.injEq] at hStored
  rw [← hStored] at hOccurs
  revert hOccurs
  decide +kernel

/- After its timer has run the fault may be updated. -/
theorem details_tell_stored_after_start :
    Along (step .insertion) (RecordsStored .insertion) started
      (runTimer ++
        [update, .setFaultState ⟨"bias", false⟩]) := by
  have hStarted :
      Started .insertion (fun _ => true) scenario started :=
    ⟨0, 0, by rfl⟩
  have hRan :
      (run (step .insertion) started runTimer).all
          (fun c =>
            decide
              (∀ e ∈ c.node.entities,
                e.callback.captured.isSome = true →
                  e.cancelled = true)) =
        true := by
    decide
  have hNoReload :
      ∀ a ∈ runTimer ++
          [update, .setFaultState ⟨"bias", false⟩],
        NoReload a := by
    intro a hMember content
    simp only [runTimer, update, List.cons_append,
      List.nil_append, List.mem_cons, List.not_mem_nil,
      or_false] at hMember
    rcases hMember with hA | hA | hA | hA
    · simp [hA]
    · simp [hA]
    · simp [hA]
    · simp [hA]
  have hDetails :=
    details_tell_stored_iff (by decide) hStarted hNoReload
  apply hDetails.2.2
  rw [along_append_iff]
  constructor
  · refine ⟨?_, fun s _ => ⟨?_, fun _ _ => True.intro⟩⟩
    · intro request hAction
      cases hAction
    · intro request hAction
      cases hAction
  · intro c hRun
    rw [hRun, Option.all_some, decide_eq_true_eq] at hRan
    refine ⟨?_, fun s _ => ⟨?_, fun _ _ => True.intro⟩⟩
    · intro request _ _ e hEntity key fault hTimer _
      exact hRan e hEntity (by rw [hTimer]; rfl)
    · intro request hAction
      cases hAction

end FaultController.EarlyUpdate
