import FaultInjection.Foundations.EventReplay
import FaultInjection.Core.ControlServices
import FaultInjection.Core.EventDetails

/-
  The recorded events against the fault store.

  Whoever knows the loaded scenario and the events recorded
  since it was loaded can work out the stored parameters and
  the flag of every fault.

  Key definitions include:
    * `StoredFault`
    * `readConfigUpdate`
    * `FaultController.registry`
    * `FaultController.loadedRegistry`
    * `FaultController.eventJournal`

  Key theorems include:
    * `readConfigUpdate_describeConfigUpdate`
    * `FaultController.extends_of_switch`
    * `FaultController.replaysFrom_applyReload`
    * `FaultController.event_log_replays`
-/

------------------------------------------------------------
-- Reading An Event
------------------------------------------------------------

/- What `describeConfigUpdate` writes before the entry. -/
def configUpdatePrefix : String := "config_update=\x7b"

/-
  The key and the value in the text of a changed parameter.
  The key ends at the first equals sign.
-/
def readConfigUpdate (details : String) : String × String :=
  let entry :=
    (details.toList.drop configUpdatePrefix.length).dropLast
  let key := entry.takeWhile fun c => c ≠ '='
  ( String.ofList key,
    String.ofList (entry.drop (key.length + 1)) )

theorem readConfigUpdate_describeConfigUpdate
    {key : String}
    (hKey : '=' ∉ key.toList)
    (value : String) :
    readConfigUpdate (describeConfigUpdate key value) =
      (key, value) := by
  have hEntry :
      ((describeConfigUpdate key value).toList.drop
          configUpdatePrefix.length).dropLast =
        key.toList ++ '=' :: value.toList := by
    have hText :
        describeConfigUpdate key value =
          configUpdatePrefix ++ key ++ "=" ++ value ++ "\x7d" :=
      rfl
    have hSign : "=".toList = ['='] := rfl
    have hEnd : "\x7d".toList = ['\x7d'] := rfl
    rw [hText]
    simp only [String.toList_append, List.append_assoc]
    rw [← String.length_toList, List.drop_left, hSign, hEnd,
      ← List.append_assoc, ← List.append_assoc,
      List.dropLast_concat, List.append_assoc,
      List.singleton_append]
  have hTake :
      (key.toList ++ '=' :: value.toList).takeWhile
          (fun c => c ≠ '=') =
        key.toList := by
    rw [List.takeWhile_append_of_pos]
    · simp
    · intro c hC
      rw [decide_eq_true_iff]
      intro hEq
      exact hKey (hEq ▸ hC)
  unfold readConfigUpdate
  simp only [hEntry, hTake]
  simp

/- A registered fault and its flag. -/
structure StoredFault where
  fault : FaultConfig
  active : Bool
deriving DecidableEq

namespace StoredFault

/- What an event about a stored fault says of it. -/
def tell
    (stored : StoredFault)
    (event : FaultEvent) : StoredFault :=
  if event.state = "active" then
    { stored with active := true }
  else if event.state = "inactive" then
    { stored with active := false }
  else
    let entry := readConfigUpdate event.details
    { stored with
      fault :=
        { stored.fault with
          config :=
            stored.fault.config.insert entry.1 entry.2 } }

theorem tell_stateText
    (stored : StoredFault)
    {event : FaultEvent}
    {value : Bool}
    (hState : event.state = stateText value) :
    stored.tell event = { stored with active := value } := by
  unfold tell
  rw [hState]
  cases value with
  | true => simp [stateText]
  | false => simp [stateText]

theorem tell_configUpdate
    (stored : StoredFault)
    {event : FaultEvent}
    {key value : String}
    (hKey : '=' ∉ key.toList)
    (hState : event.state = "config_updated")
    (hDetails :
      event.details = describeConfigUpdate key value) :
    stored.tell event =
      { stored with
        fault :=
          { stored.fault with
            config :=
              stored.fault.config.insert key value } } := by
  unfold tell
  rw [hState, hDetails,
    readConfigUpdate_describeConfigUpdate hKey]
  simp

end StoredFault

------------------------------------------------------------
-- Keys That Requests Store
------------------------------------------------------------

/- No declared key contains an equals sign. -/
theorem plainKey_of_mem_schema
    {type : String}
    {field : FaultConfigField}
    (hField : field ∈ schemaForBuiltinInjectorType type) :
    '=' ∉ field.key.toList := by
  have hKeys :
      ∀ field ∈ schemaForBuiltinInjectorType type,
        '=' ∉ field.key.toList := by
    refine builtinInjectorType_cases
      (P := fun type =>
        ∀ field ∈ schemaForBuiltinInjectorType type,
          '=' ∉ field.key.toList)
      ?_ ?_ ?_ ?_ ?_ ?_ ?_ ?_ (known_of_mem_schema hField)
    all_goals decide
  exact hKeys field hField

/- Other types than the built-in ones accept no key. -/
theorem configSchema_eq_builtin
    (injector : FaultInjectorBase) :
    injector.configSchema =
      schemaForBuiltinInjectorType injector.type := by
  unfold FaultInjectorBase.configSchema
  by_cases hKnown : isKnownInjectorType injector.type = true
  · rw [if_pos hKnown]
  · rw [if_neg hKnown]
    unfold isKnownInjectorType at hKnown
    simp only [decide_eq_true_iff, not_or] at hKnown
    simp [allowedConfigKeysForInjectorType,
      schemaForBuiltinInjectorType, hKnown]

/- A key that a request can store is plain. -/
theorem plainKey_of_findSchemaField
    {injector : FaultInjectorBase}
    {key : String}
    {field : FaultConfigField}
    (hField :
      findSchemaField injector.configSchema key =
        some field) :
    '=' ∉ key.toList := by
  rw [configSchema_eq_builtin, findSchemaField_eq_some_iff]
    at hField
  rw [← hField.2]
  exact plainKey_of_mem_schema hField.1

------------------------------------------------------------
-- The Fault Store
------------------------------------------------------------

namespace FaultController

open FaultScheduler FaultServiceManager Transition

/- What is stored for a fault of an injector, if anything. -/
abbrev Registry := String → String → Option StoredFault

/- The faults of all injectors with their flags. -/
def registry (c : FaultController) : Registry :=
  fun key faultId =>
    (c.faultConfig key faultId).map fun fault =>
      ⟨fault, c.isActive key faultId⟩

/-
  What a scenario registers with the injectors that run: the
  last fault of each id, inactive.
-/
def loadedRegistry
    (runs : String → Bool)
    (scenario : ScenarioConfig) : Registry :=
  fun key faultId =>
    if runs key then
      (lastFault key faultId scenario.faults).map fun fault =>
        ⟨fault, false⟩
    else
      none

/- An event tells about the fault that it names. -/
def applyEvent
    (stored : Registry)
    (event : FaultEvent) : Registry :=
  fun key faultId =>
    if event.injectorId = key ∧ event.faultId = faultId then
      (stored key faultId).map fun s => s.tell event
    else
      stored key faultId

/- The recorded events without their stamps. -/
def recordedEvents (c : FaultController) : List FaultEvent :=
  c.recorder.events.map FaultEventRecord.toFaultEvent

/- The events that were published, without their stamps. -/
def publishedEvents (c : FaultController) : List FaultEvent :=
  c.subscription.published.map FaultEventMessage.toFaultEvent

/- The recorded events as a journal of the fault store. -/
def eventJournal :
    Journal FaultController FaultEvent Registry where
  log := recordedEvents
  view := registry
  apply := applyEvent

/- The injectors that run. -/
def runs (c : FaultController) (key : String) : Bool :=
  (c.injector? key).isSome

/- A reload that is not rejected loads a scenario. -/
def loads
    (h : HashOrder String)
    (c : FaultController) : Action → Bool
| .reloadScenario content => (c.checkReload h content).isOk
| _ => false

section Extensions

variable {c after : FaultController}
variable {key faultId : String}
variable {event : FaultEvent}

theorem recordedEvents_publishEvent :
    (c.publishEvent event).recordedEvents =
      c.recordedEvents ++ [event] := by
  unfold recordedEvents
  rw [publishEvent_events, List.map_append]
  rfl

theorem registry_eq_of_injectors_eq
    (hInjectors : after.injectors = c.injectors) :
    after.registry = c.registry := by
  unfold registry faultConfig isActive injector?
  rw [hInjectors]

/- Nothing is recorded and no fault changes. -/
theorem extends_of_same
    (hEvents : after.recordedEvents = c.recordedEvents)
    (hInjectors : after.injectors = c.injectors) :
    eventJournal.Extends c after :=
  Journal.extends_of_eq hEvents
    (registry_eq_of_injectors_eq hInjectors)

/- A switch and the event that names it. -/
theorem extends_of_switch
    {value : Bool}
    (hSwitch : Switches c after key faultId value)
    (hEvents :
      after.recordedEvents = c.recordedEvents ++ [event])
    (hInjector : event.injectorId = key)
    (hFault : event.faultId = faultId)
    (hState : event.state = stateText value) :
    eventJournal.Extends c after := by
  refine Journal.extends_of_entry hEvents ?_
  funext k id
  change
    (after.faultConfig k id).map _ = applyEvent c.registry _ k id
  unfold applyEvent registry
  rw [hSwitch.sameFaults.faultConfig, hSwitch.isActive,
    hInjector, hFault]
  by_cases hSame : key = k ∧ faultId = id
  · rcases hSame with ⟨rfl, rfl⟩
    cases hStored : c.faultConfig key faultId with
    | none => simp
    | some fault =>
        have hHas : c.hasFault key faultId = true :=
          hasFault_iff_faultConfig.mpr ⟨fault, hStored⟩
        simp [hHas, StoredFault.tell_stateText _ hState]
  · rw [if_neg hSame,
      if_neg fun hBoth => hSame ⟨hBoth.1, hBoth.2.1⟩]

/- The value of a request and the event that tells it. -/
theorem extends_storeValue
    {h : HashOrder String}
    {request : SetFaultConfigRequest}
    {target : Target}
    {field : FaultConfigField}
    {updated : FaultInjectorBase}
    (hNamed : c.Named)
    (hResolve :
      resolveFault h c request.faultId = .ok target)
    (hField :
      findSchemaField target.injector.configSchema
          request.key =
        some field)
    (hUpdate :
      target.injector.setFaultConfigValue request.faultId
          request.key request.value =
        some updated) :
    eventJournal.Extends c
      (storeValue target request updated c) := by
  rcases resolveFault_eq_ok hResolve with
    ⟨_, hInjector, hStored⟩
  have hId : target.injector.id = target.key :=
    hNamed target.key target.injector hInjector
  have hFault :
      c.faultConfig target.key request.faultId =
        some target.fault := by
    unfold faultConfig
    rw [hInjector]
    exact hStored
  refine
    Journal.extends_of_entry recordedEvents_publishEvent ?_
  funext key faultId
  change
    ((storeValue target request updated c).faultConfig key
        faultId).map _ =
      applyEvent c.registry _ key faultId
  unfold applyEvent registry
  rw [faultConfig_storeValue hResolve hUpdate,
    isActive_storeValue hResolve hUpdate]
  by_cases hSame :
      key = target.key ∧ faultId = request.faultId
  · rcases hSame with ⟨rfl, rfl⟩
    simp only [manualEvent, hId, and_self, if_true,
      hFault, Option.map_some]
    rw [StoredFault.tell_configUpdate _
      (plainKey_of_findSchemaField hField) rfl rfl]
  · rw [if_neg hSame, if_neg]
    rintro ⟨hKey, hOther⟩
    exact hSame ⟨hKey.symm.trans hId, hOther.symm⟩

end Extensions

------------------------------------------------------------
-- Scheduling And Steps
------------------------------------------------------------

section Steps

variable {h : HashOrder String}
variable {c after : FaultController}

theorem extends_activateNow
    (hNamed : c.Named)
    (key : String)
    (fault : FaultConfig) :
    eventJournal.Extends c (activateNow key fault c) := by
  have hSame := sameInjectors_setActive c key fault.id true
  exact
    extends_of_switch (activateNow_switches c key fault)
      recordedEvents_publishEvent
      (Named.injectorId (hSame.configured hNamed) key) rfl rfl

theorem extends_runStart
    (hNamed : c.Named)
    (n : Nat)
    (key : String)
    (fault : FaultConfig) :
    eventJournal.Extends c (runStart n key fault c) := by
  have hSame := sameInjectors_setActive c key fault.id true
  exact
    extends_of_switch (runStart_switches c key fault n)
      recordedEvents_publishEvent
      (Named.injectorId (hSame.configured hNamed) key) rfl rfl

theorem extends_runStop
    (hNamed : c.Named)
    (n : Nat)
    (key : String)
    (fault : FaultConfig) :
    eventJournal.Extends c (runStop n key fault c) := by
  have hSame := sameInjectors_setActive c key fault.id false
  exact
    extends_of_switch (runStop_switches c key fault n)
      recordedEvents_publishEvent
      (Named.injectorId (hSame.configured hNamed) key) rfl rfl

theorem extends_switchFault
    {request : SetFaultStateRequest}
    {target : Target}
    (hNamed : c.Named)
    (hResolve :
      resolveFault h c request.faultId = .ok target) :
    eventJournal.Extends c (switchFault target request c) := by
  have hInjector := (resolveFault_eq_ok hResolve).2.1
  exact
    extends_of_switch (switchFault_switches c target request)
      recordedEvents_publishEvent
      (hNamed target.key target.injector hInjector)
      rfl rfl

theorem extends_scheduleFaults
    (hNamed : c.Named) :
    eventJournal.Extends c (scheduleFaults h c).state := by
  have hKept :
      eventJournal.Extends c (scheduleFaults h c).state ∧
        (scheduleFaults h c).state.Named := by
    apply scheduleFaults_state
      (P := fun s => eventJournal.Extends c s ∧ s.Named)
    · intro key fault s _ _ hState
      refine
        ⟨hState.1.trans
          (extends_activateNow hState.2 key fault), ?_⟩
      exact
        (sameInjectors_setActive s key fault.id
          true).configured hState.2
    · intro _ _ _ _ s _ _ _ hState
      exact
        ⟨hState.1.trans (extends_of_same rfl rfl), hState.2⟩
    · exact ⟨Journal.extends_refl c, hNamed⟩
  exact hKept.1

/-
  A step that loads nothing extends the log and keeps the
  scenario and the injectors that run.
-/
theorem extends_step
    {a : Action}
    (hNamed : c.Named)
    (hLoads : c.loads h a = false)
    (hStep : c.step h a = some after) :
    after.scenario = c.scenario ∧
      eventJournal.Extends c after := by
  cases took_of_step hStep with
  | advanced => exact ⟨rfl, extends_of_same rfl rfl⟩
  | started => exact ⟨rfl, extends_runStart hNamed _ _ _⟩
  | stopped => exact ⟨rfl, extends_runStop hNamed _ _ _⟩
  | member => exact ⟨rfl, Journal.extends_refl c⟩
  | unresolved => exact ⟨rfl, Journal.extends_refl c⟩
  | switched hResolve =>
      exact ⟨rfl, extends_switchFault hNamed hResolve⟩
  | refused => exact ⟨rfl, Journal.extends_refl c⟩
  | stored hResolve hField _ hUpdate =>
      exact
        ⟨rfl,
          extends_storeValue hNamed hResolve hField hUpdate⟩
  | rejected => exact ⟨rfl, Journal.extends_refl c⟩
  | reloaded hCheck =>
      rw [loads, hCheck] at hLoads
      cases hLoads
  | delivered => exact ⟨rfl, extends_of_same rfl rfl⟩

/- What is registered with injectors that had no fault. -/
theorem registry_registerFaults
    (hNone : c.NoFaults)
    (hFlags : c.NoFlags) :
    (registerFaults c).registry =
      loadedRegistry c.runs c.scenario := by
  funext key faultId
  unfold registry loadedRegistry runs
  rw [faultConfig_registerFaults, hNone key faultId,
    Option.or_none, hFlags.registerFaults key faultId]
  cases (c.injector? key).isSome with
  | true => rfl
  | false => rfl

/-
  A reload starts the replay anew, with the scenario that it
  loads.
-/
theorem replaysFrom_applyReload
    {newScenario : ScenarioConfig}
    (hNamed : c.Named) :
    eventJournal.ReplaysFrom c.recordedEvents.length
      (loadedRegistry c.runs newScenario)
      (applyReload h newScenario c).state := by
  have hRuns :
      (clearScenario newScenario c).runs = c.runs :=
    funext fun key =>
      injector?_clearScenario_isSome newScenario key
  have hBase :
      (registerFaults
          (clearScenario newScenario c)).registry =
        loadedRegistry c.runs newScenario := by
    rw [registry_registerFaults
      (noFaults_clearScenario newScenario)
      (noFlags_clearScenario newScenario), hRuns]
    rfl
  have hLoaded :
      eventJournal.ReplaysFrom c.recordedEvents.length
        (loadedRegistry c.runs newScenario)
        (registerFaults (clearScenario newScenario c)) := by
    have hEnd :=
      Journal.replaysFrom_length (j := eventJournal) hBase
    change
      eventJournal.ReplaysFrom
        (registerFaults
          (clearScenario newScenario c)).recordedEvents.length
        _ _ at hEnd
    unfold recordedEvents at hEnd
    rw [registerFaults_recorder] at hEnd
    exact hEnd
  have hSame :
      SameInjectors
        (registerFaults (clearScenario newScenario c)) c :=
    (scheduleFaults_sameFaults h _).sameInjectors.symm.trans
      (sameInjectors_applyReload (h := h))
  exact
    hLoaded.extends
      (extends_scheduleFaults (hSame.configured hNamed))

/- The constructor replays from the beginning of the log. -/
theorem replaysFrom_of_started
    {factory : InjectorConfig → Bool}
    {scenario : ScenarioConfig}
    (hStarted : Started h factory scenario c) :
    eventJournal.ReplaysFrom 0 (loadedRegistry c.runs c.scenario)
      c := by
  have hNamed := named_of_started hStarted
  have hScenario := scenario_of_started hStarted
  rcases hStarted with ⟨steadyNow, rosNow, hConstruct⟩
  let created :=
    createInjectors factory
      (startAssertionRunner
        { node := { steadyNow := steadyNow, rosNow := rosNow }
          scenario := scenario
          generation := 0 })
  have hBase :
      (registerFaults created).registry =
        loadedRegistry created.runs created.scenario :=
    registry_registerFaults (noFaults_setUp fun _ _ => rfl)
      (noFlags_setUp fun _ _ => rfl)
  have hEmpty : (registerFaults created).recorder.events = [] := by
    rw [registerFaults_recorder]
    exact
      setUp_proj factory _ (fun s => s.recorder.events)
        (fun _ _ => rfl) fun _ _ => rfl
  have hLoaded : created.scenario = scenario :=
    setUp_scenario factory _
  unfold construct at hConstruct
  rcases Outcome.bind_eq_done_iff.mp hConstruct with
    ⟨t, hSchedule, hEnd⟩
  rw [Outcome.done.injEq] at hEnd
  have hSame : SameFaults c (registerFaults created) :=
    sameFaults_of_scheduled hSchedule hEnd.symm
  have hRuns : created.runs = c.runs := by
    funext key
    unfold runs
    rw [hSame.isSome, injector?_registerFaults_isSome]
  have hStart :
      eventJournal.ReplaysFrom 0
        (loadedRegistry c.runs c.scenario)
        (registerFaults created) := by
    have hReplays :=
      Journal.replaysFrom_length (j := eventJournal) hBase
    change
      eventJournal.ReplaysFrom
        (registerFaults created).recordedEvents.length _ _
      at hReplays
    unfold recordedEvents at hReplays
    rw [hEmpty, hRuns, hLoaded, ← hScenario] at hReplays
    exact hReplays
  have hRegistered : (registerFaults created).Named :=
    hSame.sameInjectors.symm.configured hNamed
  have hScheduled :=
    hStart.extends (extends_scheduleFaults (h := h) hRegistered)
  rw [hSchedule, Outcome.state_done] at hScheduled
  rw [← hEnd] at hScheduled ⊢
  exact hScheduled.extends (extends_of_same rfl rfl)

/- A reload that loads is accepted by its checks. -/
theorem loads_iff
    {a : Action} :
    c.loads h a = true ↔
      ∃ content newScenario,
        a = .reloadScenario content ∧
          c.checkReload h content = .ok newScenario := by
  cases a with
  | reloadScenario content =>
      cases hCheck : c.checkReload h content with
      | error result =>
          simp [loads, hCheck, Except.isOk, Except.toBool]
      | ok newScenario =>
          simp [loads, hCheck, Except.isOk, Except.toBool]
  | advance => simp [loads]
  | callback => simp [loads]
  | setFaultState => simp [loads]
  | setFaultConfig => simp [loads]
  | deliver => simp [loads]

/- What is published is recorded as well. -/
def StreamRecorded (c : FaultController) : Prop :=
  c.publishedEvents = c.recordedEvents

theorem StreamRecorded.publishEvent
    (hStream : c.StreamRecorded)
    (event : FaultEvent) :
    (c.publishEvent event).StreamRecorded := by
  unfold StreamRecorded publishedEvents at *
  rw [recordedEvents_publishEvent, publishEvent_subscription,
    KeepLast.publish_published, List.map_append, hStream]
  rfl

theorem StreamRecorded.step
    {a : Action}
    (hStream : c.StreamRecorded)
    (hStep : c.step h a = some after) :
    after.StreamRecorded := by
  cases took_of_step hStep with
  | advanced => exact hStream
  | started => exact hStream.publishEvent _
  | stopped => exact hStream.publishEvent _
  | member => exact hStream
  | unresolved => exact hStream
  | switched => exact hStream.publishEvent _
  | refused => exact hStream
  | stored => exact hStream.publishEvent _
  | rejected => exact hStream
  | reloaded =>
      apply applyReload_state (P := StreamRecorded)
      · exact fun _ _ _ hState => hState
      · exact fun _ _ _ _ hState => hState.publishEvent _
      · exact fun _ _ _ _ _ _ _ hState => hState
      · exact hStream
  | delivered hDelivered =>
      unfold KeepLast.Subscription.deliver at hDelivered
      cases hQueue : c.subscription.queue with
      | nil => simp [hQueue] at hDelivered
      | cons message rest =>
          simp only [hQueue, Option.some.injEq] at hDelivered
          rw [← hDelivered]
          exact hStream

theorem streamRecorded_of_started
    {factory : InjectorConfig → Bool}
    {scenario : ScenarioConfig}
    (hStarted : Started h factory scenario c) :
    c.StreamRecorded := by
  refine started_state (P := StreamRecorded)
    ?_ ?_ ?_ ?_ ?_ ?_ hStarted
  · exact fun _ _ hState => hState
  · exact fun _ _ _ hState => hState
  · exact fun _ _ _ hState => hState
  · exact fun _ _ _ _ hState => hState.publishEvent _
  · exact fun _ _ _ _ _ _ _ hState => hState
  · exact fun _ _ => rfl

theorem streamRecorded_of_run
    {factory : InjectorConfig → Bool}
    {scenario : ScenarioConfig}
    {start : FaultController}
    {actions : List Action}
    (hStarted : Started h factory scenario start)
    (hRun : run (step h) start actions = some c) :
    c.StreamRecorded :=
  run_invariant (I := StreamRecorded)
    (fun _ _ _ hState _ hStep => hState.step hStep)
    (streamRecorded_of_started hStarted)
    (along_of_forall (fun _ _ => trivial) start actions) hRun

/- The replay in a reachable state, as a journal tells it. -/
theorem replaysFrom_of_started_run
    {factory : InjectorConfig → Bool}
    {scenario : ScenarioConfig}
    {start : FaultController}
    {actions : List Action}
    (hStarted : Started h factory scenario start)
    (hRun : run (step h) start actions = some c) :
    eventJournal.ReplaysFrom
      (eventJournal.lastMark (step h) (loads h) 0 start actions)
      (loadedRegistry c.runs c.scenario) c := by
  refine
    Journal.replaysFrom_of_run (j := eventJournal) (I := Named)
      (fun s => loadedRegistry s.runs s.scenario)
      (fun s a t hNamed hStep =>
        (sameInjectors_step hStep).configured hNamed)
      (fun s a t hNamed hStep hLoads => ?_)
      (fun s a t hNamed hStep hLoads => ?_)
      (named_of_started hStarted)
      (replaysFrom_of_started hStarted) hRun
  · have hRuns : t.runs = s.runs :=
      funext (sameInjectors_step hStep).isSome
    rcases loads_iff.mp hLoads with
      ⟨content, newScenario, rfl, hCheck⟩
    cases took_of_step hStep with
    | rejected hRejected =>
        rw [hCheck] at hRejected
        cases hRejected
    | reloaded hAccepted =>
        rw [hCheck, Except.ok.injEq] at hAccepted
        subst hAccepted
        rw [hRuns, applyReload_scenario]
        exact replaysFrom_applyReload hNamed
  · have hRuns : t.runs = s.runs :=
      funext (sameInjectors_step hStep).isSome
    rcases extends_step hNamed hLoads hStep with
      ⟨hScenario, hExtends⟩
    refine ⟨?_, hExtends⟩
    rw [hScenario, hRuns]

/-
  In every reachable state the published events are those
  recorded, and the events since the last load replay what it
  registered into the stored parameters and flags.
-/
theorem event_log_replays
    {factory : InjectorConfig → Bool}
    {scenario : ScenarioConfig}
    {start : FaultController}
    {actions : List Action}
    (hStarted : Started h factory scenario start)
    (hRun : run (step h) start actions = some c) :
    c.publishedEvents = c.recordedEvents ∧
      c.registry =
        (c.publishedEvents.drop
            (eventJournal.lastMark (step h) (loads h) 0 start
              actions)).foldl
          applyEvent (loadedRegistry c.runs c.scenario) := by
  have hStream := streamRecorded_of_run hStarted hRun
  refine ⟨hStream, ?_⟩
  rw [hStream]
  exact (replaysFrom_of_started_run hStarted hRun).2

end Steps

end FaultController

------------------------------------------------------------
-- A Watched Run
------------------------------------------------------------

namespace FaultController.WatchedRun

open FaultServiceManager Transition

def injector : InjectorConfig where
  id := "base"
  type := "odom"
  topic := some
    { inputTopic := "odom", outputTopic := "odom_faulty" }

def bias : FaultConfig where
  id := "bias"
  injectorId := "base"
  start := some 1000
  duration := some 2000
  config := .ofList [("x_bias", "1.0")]

def scenario : ScenarioConfig where
  injectors := [injector]
  faults := [bias, { id := "drop", injectorId := "base" }]
  initiallyActiveFaults := ["drop"]

def started : FaultController :=
  (construct .insertion (fun _ => true) {} 0 scenario).state

def update : Action :=
  .setFaultConfig ⟨"bias", "x_bias", "2.0"⟩

/- A timer, a reload and two requests. -/
def actions : List Action :=
  [ .advance 1000000000 1000000000, .callback 3, .deliver,
    .reloadScenario (.ok scenario), update,
    .setFaultState ⟨"drop", false⟩ ]

/- The state that the run leaves. -/
def last : FaultController :=
  ((run (step .insertion) started actions).getD started)

theorem started_started :
    Started .insertion (fun _ => true) scenario started :=
  ⟨0, 0, by rfl⟩

theorem run_actions :
    run (step .insertion) started actions = some last := by
  have hSome :
      (run (step .insertion) started actions).isSome =
        true := by
    decide
  rcases Option.isSome_iff_exists.mp hSome with ⟨c, hRun⟩
  rw [last, hRun]
  rfl

theorem event_log_replays_after_reload :
    last.registry "base" "bias" =
        some
          ⟨{ bias with config := .ofList [("x_bias", "2.0")] },
            false⟩ ∧
      last.publishedEvents = last.recordedEvents ∧
      last.registry =
        (last.publishedEvents.drop
            (eventJournal.lastMark (step .insertion)
              (loads .insertion) 0 started actions)).foldl
          applyEvent (loadedRegistry last.runs last.scenario) :=
  ⟨by decide +kernel,
    event_log_replays started_started run_actions⟩

end FaultController.WatchedRun
