import FaultInjection.Core.Scheduling

/-
  Rules for properties that the controller keeps.

  Construction and reload are sequences of a few primitive
  changes, and so is every step of a run. A property that
  each primitive change keeps is kept by all of them.

  Key theorems include:
    * `FaultController.construct_state`
    * `FaultController.started_state`
    * `FaultController.scheduled_of_started`
    * `FaultController.applyReload_state`
    * `FaultController.applyReload_done`
    * `FaultController.took_of_step`
    * `FaultController.step_keeps`

  Key definitions include:
    * `FaultController.SetUp`
    * `FaultController.Records`
    * `FaultController.Took`
-/

------------------------------------------------------------
-- Registration
------------------------------------------------------------

namespace FaultController

open FaultScheduler FaultServiceManager

/- A property that each registration keeps is kept by all. -/
theorem registerFaults_state
    {P : FaultController → Prop}
    {c : FaultController}
    (hRegister :
      ∀ fault ∈ c.scenario.faults, ∀ s,
        P s → P (registerFault s fault))
    (hInit : P c) :
    P (registerFaults c) := by
  suffices hGeneral :
      ∀ (faults : List FaultConfig) (s : FaultController),
        faults ⊆ c.scenario.faults → P s →
          P (faults.foldl registerFault s) by
    exact hGeneral _ c (fun _ h => h) hInit
  intro faults
  induction faults with
  | nil => exact fun s _ hState => hState
  | cons fault faults ih =>
      intro s hSubset hState
      have hTail : faults ⊆ c.scenario.faults :=
        fun f hF => hSubset (List.mem_cons_of_mem fault hF)
      have hNext : P (registerFault s fault) :=
        hRegister fault (hSubset (by simp)) s hState
      exact ih _ hTail hNext

section RegisterFrame

variable (c : FaultController)

theorem registerFaults_proj
    {α : Type}
    (proj : FaultController → α)
    (hProj :
      ∀ s fault, proj (registerFault s fault) = proj s) :
    proj (registerFaults c) = proj c := by
  apply registerFaults_state
    (P := fun s => proj s = proj c)
  · intro fault _ s hState
    rw [hProj, hState]
  · rfl

@[simp] theorem registerFaults_node :
    (registerFaults c).node = c.node :=
  registerFaults_proj c FaultController.node
    fun _ _ => rfl

@[simp] theorem registerFaults_scenario :
    (registerFaults c).scenario = c.scenario :=
  registerFaults_proj c FaultController.scenario
    fun _ _ => rfl

@[simp] theorem registerFaults_recorder :
    (registerFaults c).recorder = c.recorder :=
  registerFaults_proj c FaultController.recorder
    fun _ _ => rfl

@[simp] theorem registerFaults_timers :
    (registerFaults c).timers = c.timers :=
  registerFaults_proj c FaultController.timers
    fun _ _ => rfl

@[simp] theorem registerFaults_subscription :
    (registerFaults c).subscription = c.subscription :=
  registerFaults_proj c FaultController.subscription
    fun _ _ => rfl

@[simp] theorem registerFaults_generation :
    (registerFaults c).generation = c.generation :=
  registerFaults_proj c FaultController.generation
    fun _ _ => rfl

@[simp] theorem registerFaults_keys :
    (registerFaults c).injectors.keys = c.injectors.keys :=
  registerFaults_proj c (fun s => s.injectors.keys)
    fun s fault => modifyInjector_keys s fault.injectorId _

end RegisterFrame

------------------------------------------------------------
-- Construction And Reload
------------------------------------------------------------

/-
  A property that registration, startup activation and timer
  creation keep is kept by registering and scheduling the
  faults of the loaded scenario.
-/
theorem scheduleRegistered_state
    {h : HashOrder String}
    {P : FaultController → Prop}
    {c : FaultController}
    (hRegister :
      ∀ fault ∈ c.scenario.faults, ∀ s,
        P s → P (registerFault s fault))
    (hActivate :
      ∀ fault ∈ c.scenario.faults,
        isInitiallyActive fault
            c.scenario.initiallyActiveFaults = true →
          ∀ s, P s →
            P (activateNow fault.injectorId fault s))
    (hTimer :
      ∀ fault ∈ c.scenario.faults, ∀ callback delay,
        (callback, delay) ∈
            faultTimers c.scenario.initiallyActiveFaults
              fault.injectorId fault →
          CallbackNode.periodFits (max delay 1) = true →
            ∀ s, P s → P (addTimer callback delay s))
    (hInit : P c) :
    P (scheduleFaults h (registerFaults c)).state := by
  have hRegistered : P (registerFaults c) :=
    registerFaults_state hRegister hInit
  apply scheduleFaults_state ?_ ?_ hRegistered
  · intro key fault s hItem hActive hState
    rw [mem_workList_iff, registerFaults_scenario] at hItem
    rw [registerFaults_scenario] at hActive
    rcases hItem with ⟨hFault, rfl, _⟩
    exact hActivate fault hFault hActive s hState
  · intro key fault callback delay s hItem hMember hFits
      hState
    rw [mem_workList_iff, registerFaults_scenario] at hItem
    rw [registerFaults_scenario] at hMember
    rcases hItem with ⟨hFault, rfl, _⟩
    exact hTimer fault hFault callback delay hMember hFits s
      hState

/- The reload is clearing, registering and scheduling. -/
theorem applyReload_state
    {h : HashOrder String}
    {P : FaultController → Prop}
    {newScenario : ScenarioConfig}
    {c : FaultController}
    (hRegister :
      ∀ fault ∈ newScenario.faults, ∀ s,
        P s → P (registerFault s fault))
    (hActivate :
      ∀ fault ∈ newScenario.faults,
        isInitiallyActive fault
            newScenario.initiallyActiveFaults = true →
          ∀ s, P s →
            P (activateNow fault.injectorId fault s))
    (hTimer :
      ∀ fault ∈ newScenario.faults, ∀ callback delay,
        (callback, delay) ∈
            faultTimers newScenario.initiallyActiveFaults
              fault.injectorId fault →
          CallbackNode.periodFits (max delay 1) = true →
            ∀ s, P s → P (addTimer callback delay s))
    (hClear : P (clearScenario newScenario c)) :
    P (applyReload h newScenario c).state :=
  scheduleRegistered_state
    (c := clearScenario newScenario c)
    hRegister hActivate hTimer hClear

/- A property that creating members keeps. -/
theorem startAssertionRunner_state
    {P : FaultController → Prop}
    {c : FaultController}
    (hMember : ∀ m s, P s → P (s.createMember m))
    (hInit : P c) :
    P (startAssertionRunner c) := by
  unfold startAssertionRunner
  apply hMember
  apply hMember
  generalize c.scenario.assertions = assertions
  induction assertions generalizing c with
  | nil => exact hInit
  | cons assertion assertions ih =>
      apply ih
      beta_reduce
      split
      · exact hMember _ c hInit
      · exact hInit

/- The controller after an injector was created. -/
def addInjector
    (config : InjectorConfig)
    (c : FaultController) : FaultController :=
  { c with
    injectors :=
      c.injectors.insert config.id { config := config } }

theorem injector?_addInjector
    (config : InjectorConfig)
    (c : FaultController)
    (key : String) :
    (addInjector config c).injector? key =
      if config.id = key then
        some { config := config }
      else
        c.injector? key :=
  UnorderedMap.find?_insert _ _ _ _

theorem createInjectors_state
    {factory : InjectorConfig → Bool}
    {P : FaultController → Prop}
    {c : FaultController}
    (hMember : ∀ m s, P s → P (s.createMember m))
    (hInjector :
      ∀ config ∈ c.scenario.injectors, ∀ s,
        P s → P (addInjector config s))
    (hInit : P c) :
    P (createInjectors factory c) := by
  unfold createInjectors
  suffices hGeneral :
      ∀ (configs : List InjectorConfig)
        (s : FaultController),
        configs ⊆ c.scenario.injectors → P s →
          P (configs.foldl (createInjector factory) s) by
    exact hGeneral _ c (fun _ h => h) hInit
  intro configs
  induction configs with
  | nil => exact fun s _ hState => hState
  | cons config configs ih =>
      intro s hSubset hState
      apply ih
      · exact fun f hF => hSubset (by simp [hF])
      · unfold createInjector
        split
        · apply hMember
          exact hInjector config (hSubset (by simp)) s hState
        · exact hState

section ConstructFrame

variable (factory : InjectorConfig → Bool)
variable (c : FaultController)

theorem setUp_proj
    {α : Type}
    (proj : FaultController → α)
    (hMember :
      ∀ m s, proj (createMember s m) = proj s)
    (hInjector :
      ∀ config s, proj (addInjector config s) = proj s) :
    proj (createInjectors factory (startAssertionRunner c)) =
      proj c := by
  have hStart :
      proj (startAssertionRunner c) = proj c := by
    apply startAssertionRunner_state
      (P := fun s => proj s = proj c)
    · intro m s hState
      rw [hMember, hState]
    · rfl
  apply createInjectors_state
    (P := fun s => proj s = proj c)
  · intro m s hState
    rw [hMember, hState]
  · intro config _ s hState
    rw [hInjector, hState]
  · exact hStart

@[simp] theorem setUp_scenario :
    (createInjectors factory
      (startAssertionRunner c)).scenario = c.scenario :=
  setUp_proj factory c FaultController.scenario
    (fun _ _ => rfl) fun _ _ => rfl

end ConstructFrame

/-
  A property that every change of the constructor keeps holds
  of the state it leaves.
-/
theorem construct_state
    {h : HashOrder String}
    {factory : InjectorConfig → Bool}
    {node : CallbackNode Owner Callback}
    {generation : Nat}
    {scenario : ScenarioConfig}
    {P : FaultController → Prop}
    (hMember : ∀ m s, P s → P (createMember s m))
    (hInjector :
      ∀ config ∈ scenario.injectors, ∀ s,
        P s → P (addInjector config s))
    (hRegister :
      ∀ fault ∈ scenario.faults, ∀ s,
        P s → P (registerFault s fault))
    (hActivate :
      ∀ fault ∈ scenario.faults,
        isInitiallyActive fault
            scenario.initiallyActiveFaults = true →
          ∀ s, P s →
            P (activateNow fault.injectorId fault s))
    (hTimer :
      ∀ fault ∈ scenario.faults, ∀ callback delay,
        (callback, delay) ∈
            faultTimers scenario.initiallyActiveFaults
              fault.injectorId fault →
          CallbackNode.periodFits (max delay 1) = true →
            ∀ s, P s → P (addTimer callback delay s))
    (hInit :
      P
        { node := node
          scenario := scenario
          generation := generation }) :
    P
      (construct h factory node generation scenario).state := by
  let base : FaultController :=
    { node := node
      scenario := scenario
      generation := generation }
  have hScenario :
      (createInjectors factory
        (startAssertionRunner base)).scenario = scenario :=
    setUp_scenario factory base
  have hStarted : P (startAssertionRunner base) :=
    startAssertionRunner_state hMember hInit
  have hStartedScenario :
      (startAssertionRunner base).scenario = scenario := by
    apply startAssertionRunner_state
      (P := fun s => s.scenario = scenario)
    · exact fun _ _ hState => hState
    · rfl
  have hCreated :
      P
        (createInjectors factory
          (startAssertionRunner base)) := by
    apply createInjectors_state hMember ?_ hStarted
    rw [hStartedScenario]
    exact hInjector
  unfold construct
  apply Outcome.bind_state
  · apply scheduleRegistered_state
    · rw [hScenario]
      exact hRegister
    · rw [hScenario]
      exact hActivate
    · rw [hScenario]
      exact hTimer
    · exact hCreated
  · intro s hState
    exact hMember .outputConflictTimer s hState

/- The same for the constructor that starts a node. -/
theorem started_state
    {h : HashOrder String}
    {factory : InjectorConfig → Bool}
    {scenario : ScenarioConfig}
    {c : FaultController}
    {P : FaultController → Prop}
    (hMember : ∀ m s, P s → P (createMember s m))
    (hInjector :
      ∀ config ∈ scenario.injectors, ∀ s,
        P s → P (addInjector config s))
    (hRegister :
      ∀ fault ∈ scenario.faults, ∀ s,
        P s → P (registerFault s fault))
    (hActivate :
      ∀ fault ∈ scenario.faults,
        isInitiallyActive fault
            scenario.initiallyActiveFaults = true →
          ∀ s, P s →
            P (activateNow fault.injectorId fault s))
    (hTimer :
      ∀ fault ∈ scenario.faults, ∀ callback delay,
        (callback, delay) ∈
            faultTimers scenario.initiallyActiveFaults
              fault.injectorId fault →
          CallbackNode.periodFits (max delay 1) = true →
            ∀ s, P s → P (addTimer callback delay s))
    (hInit :
      ∀ steadyNow rosNow,
        P
          { node :=
              { steadyNow := steadyNow, rosNow := rosNow }
            scenario := scenario
            generation := 0 })
    (hStarted : Started h factory scenario c) :
    P c := by
  rcases hStarted with ⟨steadyNow, rosNow, hDone⟩
  rw [← Outcome.state_done c, ← hDone]
  exact construct_state hMember hInjector hRegister hActivate
    hTimer (hInit steadyNow rosNow)

------------------------------------------------------------
-- Startup
------------------------------------------------------------

/- No timer of the scheduler was created yet. -/
def OnlyMembers (c : FaultController) : Prop :=
  ∀ e ∈ c.node.entities, ∃ m, e.callback = .member m

theorem onlyMembers_createMember
    (m : Member)
    (s : FaultController)
    (hMembers : s.OnlyMembers) :
    (s.createMember m).OnlyMembers := by
  intro e hEntity
  rcases List.mem_append.mp hEntity with hOld | hNew
  · exact hMembers e hOld
  · rw [List.mem_singleton.mp hNew]
    exact ⟨m, rfl⟩

/-
  What the constructor has set up when it schedules: nothing
  is recorded, and the node has members only.
-/
structure SetUp
    (scenario : ScenarioConfig)
    (registered : FaultController) : Prop where
  loaded : registered.scenario = scenario
  members : registered.OnlyMembers
  empty : registered.recorder.events = []

/-
  The constructor schedules the faults of what it has set up
  and creates one more member.
-/
theorem scheduled_of_started
    {h : HashOrder String}
    {factory : InjectorConfig → Bool}
    {scenario : ScenarioConfig}
    {c : FaultController}
    (hStarted : Started h factory scenario c) :
    ∃ registered t : FaultController,
      SetUp scenario registered ∧
        scheduleFaults h registered = .done t ∧
          c = t.createMember .outputConflictTimer := by
  rcases hStarted with ⟨steadyNow, rosNow, hConstruct⟩
  unfold construct at hConstruct
  rcases Outcome.bind_eq_done_iff.mp hConstruct with
    ⟨t, hSchedule, hEnd⟩
  rw [Outcome.done.injEq] at hEnd
  refine ⟨_, t, ⟨?_, ?_, ?_⟩, hSchedule, hEnd.symm⟩
  · rw [registerFaults_scenario, setUp_scenario]
  · unfold OnlyMembers
    rw [registerFaults_node]
    apply createInjectors_state (P := OnlyMembers)
    · exact onlyMembers_createMember
    · exact fun _ _ _ hState => hState
    · apply startAssertionRunner_state
        (P := OnlyMembers) onlyMembers_createMember
      intro e hEntity
      cases hEntity
  · rw [registerFaults_recorder]
    exact
      setUp_proj factory _ (fun s => s.recorder.events)
        (fun _ _ => rfl) fun _ _ => rfl

/- Scheduling at startup changes no registered fault. -/
theorem sameFaults_of_scheduled
    {h : HashOrder String}
    {c registered t : FaultController}
    (hSchedule : scheduleFaults h registered = .done t)
    (hEnd : c = t.createMember .outputConflictTimer) :
    SameFaults c registered := by
  have hSame := scheduleFaults_sameFaults h registered
  rw [hSchedule] at hSame
  rw [hEnd]
  exact hSame

------------------------------------------------------------
-- Recorded Events
------------------------------------------------------------

/- A change records one event of a fault. -/
def Records
    (before after : FaultController)
    (faultId state source : String) : Prop :=
  ∃ record : FaultEventRecord,
    after.recorder.events =
        before.recorder.events ++ [record] ∧
      record.faultId = faultId ∧ record.state = state ∧
        record.source = source

section Records

variable (c : FaultController)
variable (key : String)
variable (fault : FaultConfig)
variable (n : Nat)

theorem activateNow_records :
    Records c (activateNow key fault c) fault.id "active"
      "startup" :=
  ⟨_, rfl, rfl, rfl, rfl⟩

theorem runStart_records :
    Records c (runStart n key fault c) fault.id "active"
      "scheduled" :=
  ⟨_, rfl, rfl, rfl, rfl⟩

theorem runStop_records :
    Records c (runStop n key fault c) fault.id "inactive"
      "scheduled" :=
  ⟨_, rfl, rfl, rfl, rfl⟩

theorem switchFault_records
    (target : Target)
    (request : SetFaultStateRequest) :
    Records c (switchFault target request c) request.faultId
      (if request.active then "active" else "inactive")
      "manual" :=
  ⟨_, rfl, rfl, rfl, rfl⟩

theorem storeValue_records
    (target : Target)
    (request : SetFaultConfigRequest)
    (updated : FaultInjectorBase) :
    Records c (storeValue target request updated c)
      request.faultId "config_updated" "manual" :=
  ⟨_, rfl, rfl, rfl, rfl⟩

end Records

------------------------------------------------------------
-- Steps
------------------------------------------------------------

variable {h : HashOrder String}
variable {c after : FaultController}
variable {a : Action}

theorem reloadScenario_cases
    (content : Except String ScenarioConfig) :
    (∃ result,
        c.checkReload h content = .error result ∧
          c.reloadScenario h content = .done c) ∨
      ∃ newScenario,
        c.checkReload h content = .ok newScenario ∧
          c.reloadScenario h content =
            applyReload h newScenario c := by
  unfold reloadScenario
  cases hCheck : c.checkReload h content with
  | error result => exact Or.inl ⟨result, rfl, rfl⟩
  | ok newScenario => exact Or.inr ⟨newScenario, rfl, rfl⟩

theorem fire_eq_some_iff
    {n : Nat} :
    c.fire n = some after ↔
      ∃ e, c.node.ready n = some e ∧
        c.runCallback n e.callback = after := by
  simp [fire]

/- A step of the node is a step that throws nothing. -/
theorem nodeStep_eq_some_iff :
    c.nodeStep h a = some after ↔
      c.throws h a = false ∧ c.step h a = some after := by
  unfold nodeStep
  cases c.throws h a with
  | true => simp
  | false => simp

/- A reload that is accepted and throws nothing completes. -/
theorem applyReload_done
    {content : Except String ScenarioConfig}
    {newScenario : ScenarioConfig}
    (hStep :
      c.nodeStep h (.reloadScenario content) = some after)
    (hCheck : c.checkReload h content = .ok newScenario) :
    applyReload h newScenario c = .done after := by
  rcases nodeStep_eq_some_iff.mp hStep with
    ⟨hNoThrow, hTaken⟩
  rw [step, Option.some.injEq] at hTaken
  have hReload :
      c.reloadScenario h content =
        applyReload h newScenario c := by
    unfold reloadScenario
    simp only [hCheck]
  have hReturned :
      (applyReload h newScenario c).returned = true := by
    simpa [throws, hReload] using hNoThrow
  rw [hReload] at hTaken
  rw [Outcome.eq_done_of_returned hReturned, hTaken]

/-
  What a step can do, with what enabled it. Requests that are
  rejected and callbacks of members change nothing.
-/
inductive Took
    (h : HashOrder String)
    (c : FaultController) :
    Action → FaultController → Prop
| advanced (elapsed : Nat) (rosNow : Int) :
    Took h c (.advance elapsed rosNow)
      { c with node := c.node.advance elapsed rosNow }
| started {n : Nat} {e : CallbackEntity Callback}
    {key : String} {fault : FaultConfig}
    (hReady : c.node.ready n = some e)
    (hCallback : e.callback = .startFault key fault) :
    Took h c (.callback n) (runStart n key fault c)
| stopped {n : Nat} {e : CallbackEntity Callback}
    {key : String} {fault : FaultConfig}
    (hReady : c.node.ready n = some e)
    (hCallback : e.callback = .stopFault key fault) :
    Took h c (.callback n) (runStop n key fault c)
| member {n : Nat} {e : CallbackEntity Callback} {m : Member}
    (hReady : c.node.ready n = some e)
    (hCallback : e.callback = .member m) :
    Took h c (.callback n) c
| unresolved {request : SetFaultStateRequest}
    {message : String}
    (hResolve :
      resolveFault h c request.faultId = .error message) :
    Took h c (.setFaultState request) c
| switched {request : SetFaultStateRequest} {target : Target}
    (hResolve :
      resolveFault h c request.faultId = .ok target) :
    Took h c (.setFaultState request)
      (switchFault target request c)
| refused {request : SetFaultConfigRequest}
    (hRefused :
      (handleSetFaultConfig h request c).2.success = false) :
    Took h c (.setFaultConfig request) c
| stored {request : SetFaultConfigRequest} {target : Target}
    {field : FaultConfigField} {updated : FaultInjectorBase}
    (hResolve :
      resolveFault h c request.faultId = .ok target)
    (hField :
      findSchemaField target.injector.configSchema request.key =
        some field)
    (hValid : validateConfigValue field request.value = none)
    (hUpdate :
      target.injector.setFaultConfigValue request.faultId
          request.key request.value =
        some updated) :
    Took h c (.setFaultConfig request)
      (storeValue target request updated c)
| rejected {content : Except String ScenarioConfig}
    {result : ReloadScenarioResult}
    (hCheck : c.checkReload h content = .error result) :
    Took h c (.reloadScenario content) c
| reloaded {content : Except String ScenarioConfig}
    {newScenario : ScenarioConfig}
    (hCheck : c.checkReload h content = .ok newScenario) :
    Took h c (.reloadScenario content)
      (applyReload h newScenario c).state
| delivered {subscription : KeepLast.Subscription FaultEventMessage}
    (hDelivered : c.subscription.deliver = some subscription) :
    Took h c .deliver { c with subscription := subscription }

theorem took_of_step (hStep : c.step h a = some after) :
    Took h c a after := by
  cases a with
  | advance elapsed rosNow =>
      rw [step, Option.some.injEq] at hStep
      subst hStep
      exact .advanced elapsed rosNow
  | callback n =>
      rcases fire_eq_some_iff.mp hStep with ⟨e, hReady, hRun⟩
      subst hRun
      cases hCallback : e.callback with
      | startFault key fault => exact .started hReady hCallback
      | stopFault key fault => exact .stopped hReady hCallback
      | member m => exact .member hReady hCallback
  | setFaultState request =>
      rw [step, Option.some.injEq] at hStep
      subst hStep
      unfold handleSetFaultState
      cases hResolve : resolveFault h c request.faultId with
      | error message => exact .unresolved hResolve
      | ok target => exact .switched hResolve
  | setFaultConfig request =>
      rw [step, Option.some.injEq] at hStep
      subst hStep
      rcases handleSetFaultConfig_cases
          (h := h) (c := c) request with
        ⟨hRefused, hNone⟩ | ⟨target, field, updated, hResolve,
          hField, hValid, hUpdate, hSome⟩
      · rw [hNone]
        exact .refused hRefused
      · rw [hSome]
        exact .stored hResolve hField hValid hUpdate
  | reloadScenario content =>
      rw [step, Option.some.injEq] at hStep
      subst hStep
      rcases reloadScenario_cases (h := h) (c := c) content with
        ⟨result, hCheck, hDone⟩ | ⟨newScenario, hCheck, hApply⟩
      · rw [hDone]
        exact .rejected hCheck
      · rw [hApply]
        exact .reloaded hCheck
  | deliver =>
      rw [step, deliver, Option.map_eq_some_iff] at hStep
      rcases hStep with ⟨subscription, hDelivered, rfl⟩
      exact .delivered hDelivered

/-
  A property that each primitive change of a step keeps is
  kept by the step. Each change comes with what enabled it.
-/
theorem step_keeps
    {P : FaultController → Prop}
    (hAdvance :
      ∀ elapsed rosNow, a = .advance elapsed rosNow →
        P { c with node := c.node.advance elapsed rosNow })
    (hStart :
      ∀ n e key fault, a = .callback n →
        c.node.ready n = some e →
          e.callback = .startFault key fault →
            P (runStart n key fault c))
    (hStop :
      ∀ n e key fault, a = .callback n →
        c.node.ready n = some e →
          e.callback = .stopFault key fault →
            P (runStop n key fault c))
    (hSwitch :
      ∀ request target, a = .setFaultState request →
        resolveFault h c request.faultId = .ok target →
          P (switchFault target request c))
    (hStore :
      ∀ request target field updated,
        a = .setFaultConfig request →
          resolveFault h c request.faultId = .ok target →
            findSchemaField target.injector.configSchema
                request.key = some field →
              validateConfigValue field request.value =
                none →
                target.injector.setFaultConfigValue
                    request.faultId request.key
                      request.value =
                  some updated →
                  P (storeValue target request updated c))
    (hReload :
      ∀ content newScenario, a = .reloadScenario content →
        c.checkReload h content = .ok newScenario →
          P (applyReload h newScenario c).state)
    (hDeliver :
      ∀ subscription, a = .deliver →
        c.subscription.deliver = some subscription →
          P { c with subscription := subscription })
    (hSame : P c)
    (hStep : c.step h a = some after) :
    P after := by
  cases took_of_step hStep with
  | advanced elapsed rosNow => exact hAdvance elapsed rosNow rfl
  | started hReady hCallback =>
      exact hStart _ _ _ _ rfl hReady hCallback
  | stopped hReady hCallback =>
      exact hStop _ _ _ _ rfl hReady hCallback
  | member => exact hSame
  | unresolved => exact hSame
  | switched hResolve => exact hSwitch _ _ rfl hResolve
  | refused => exact hSame
  | stored hResolve hField hValid hUpdate =>
      exact hStore _ _ _ _ rfl hResolve hField hValid hUpdate
  | rejected => exact hSame
  | reloaded hCheck => exact hReload _ _ rfl hCheck
  | delivered hDelivered => exact hDeliver _ rfl hDelivered

end FaultController
