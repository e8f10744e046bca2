import FaultInjection.Core.Registration

/-
  When every published event reaches the assertion runner.

  The runner's subscription keeps ten undelivered events. The
  constructor and a reload publish one event for each fault
  active at startup before the executor can deliver any.

  Key definitions include:
    * `FaultController.startupFaults`
    * `FaultController.published`
    * `FaultController.EventsFit`

  Key theorems include:
    * `FaultController.subscription_scheduleFaults`
    * `FaultController.subscription_nodeStep`
    * `FaultController.no_event_lost_iff`
-/

------------------------------------------------------------
-- Published Events
------------------------------------------------------------

namespace FaultController

open FaultScheduler FaultServiceManager Transition KeepLast

/- The faults that scheduling activates at once. -/
def startupFaults
    (h : HashOrder String)
    (c : FaultController) : List (String × FaultConfig) :=
  (c.workList h).filter fun item =>
    isInitiallyActive item.2
      c.scenario.initiallyActiveFaults

/- A config request names a known fault and a valid value. -/
def acceptsConfig
    (h : HashOrder String)
    (c : FaultController)
    (request : SetFaultConfigRequest) : Bool :=
  match resolveFault h c request.faultId with
  | .error _ => false
  | .ok target =>
      match
        findSchemaField target.injector.configSchema
          request.key
      with
      | none => false
      | some field =>
          (validateConfigValue field request.value).isNone

/- A state request names a known fault. -/
def acceptsState
    (h : HashOrder String)
    (c : FaultController)
    (request : SetFaultStateRequest) : Bool :=
  match resolveFault h c request.faultId with
  | .error _ => false
  | .ok _ => true

/- The number of events that an action publishes. -/
def published
    (h : HashOrder String)
    (c : FaultController) : Action → Nat
| .callback n =>
    match c.node.ready n with
    | none => 0
    | some e => if e.callback.isScheduled then 1 else 0
| .setFaultState request =>
    if c.acceptsState h request then 1 else 0
| .setFaultConfig request =>
    if c.acceptsConfig h request then 1 else 0
| .reloadScenario content =>
    match c.checkReload h content with
    | .error _ => 0
    | .ok newScenario =>
        (startupFaults h
          { c with scenario := newScenario }).length
| _ => 0

/- The events of an action fit into the subscription. -/
def EventsFit
    (h : HashOrder String)
    (c : FaultController)
    (a : Action) : Prop :=
  c.subscription.queue.length + c.published h a ≤ 10

instance
    (h : HashOrder String)
    (c : FaultController)
    (a : Action) :
    Decidable (EventsFit h c a) := by
  unfold EventsFit
  infer_instance

/-
  The events published are those handed to the assertion
  runner followed by those still queued.
-/
def NoEventLost (c : FaultController) : Prop :=
  Intact c.subscription

------------------------------------------------------------
-- One Step
------------------------------------------------------------

/- The subscription receives so many further events. -/
def Publishes
    (before after : Subscription FaultEventMessage)
    (count : Nat) : Prop :=
  ∃ messages : List FaultEventMessage,
    messages.length = count ∧
      after = before.publishAll messages

theorem publishes_none
    (s : Subscription FaultEventMessage) :
    Publishes s s 0 :=
  ⟨[], rfl, rfl⟩

theorem publishes_one
    (c : FaultController)
    (event : FaultEvent) :
    Publishes c.subscription
      (c.publishEvent event).subscription 1 :=
  ⟨[_], rfl, rfl⟩

theorem Publishes.trans
    {s t u : Subscription FaultEventMessage}
    {m n : Nat}
    (hFirst : Publishes s t m)
    (hSecond : Publishes t u n) :
    Publishes s u (m + n) := by
  rcases hFirst with ⟨first, hLength, rfl⟩
  rcases hSecond with ⟨second, hLength', rfl⟩
  refine ⟨first ++ second, ?_, ?_⟩
  · rw [List.length_append, hLength, hLength']
  · rw [publishAll_append]

/- Work lists agree on the scenario and the injectors. -/
theorem workList_congr
    {h : HashOrder String}
    {a b : FaultController}
    (hScenario : a.scenario = b.scenario)
    (hKeys : a.injectors.keys = b.injectors.keys) :
    a.workList h = b.workList h := by
  unfold workList
  rw [hScenario, hKeys]

theorem startupFaults_congr
    {h : HashOrder String}
    {a b : FaultController}
    (hScenario : a.scenario = b.scenario)
    (hKeys : a.injectors.keys = b.injectors.keys) :
    startupFaults h a = startupFaults h b := by
  unfold startupFaults
  rw [workList_congr hScenario hKeys, hScenario]

/- Scheduling one fault publishes its startup activation. -/
theorem subscription_scheduleFault
    (initiallyActiveFaults : List String)
    (key : String)
    (fault : FaultConfig)
    (s : FaultController) :
    Publishes s.subscription
      (scheduleFault initiallyActiveFaults key fault
        s).state.subscription
      (if isInitiallyActive fault initiallyActiveFaults then 1
        else 0) := by
  have hActivated :
      Publishes s.subscription
        (startupActivation initiallyActiveFaults key fault
          s).subscription
        (if isInitiallyActive fault initiallyActiveFaults then 1
          else 0) := by
    unfold startupActivation
    split
    · exact publishes_one _ _
    · exact publishes_none _
  rw [scheduleFault_eq]
  generalize
    (if isInitiallyActive fault initiallyActiveFaults then 1
      else 0) = count at hActivated ⊢
  apply Outcome.forEach_state
    (P := fun (u : FaultController) =>
      Publishes s.subscription u.subscription count)
    ?_ hActivated
  rintro ⟨callback, delay⟩ _ u hU
  exact scheduleTimer_state
    (P := fun (v : FaultController) =>
      Publishes s.subscription v.subscription count)
    hU fun _ => hU

/- Scheduling publishes one event for each startup fault. -/
theorem subscription_scheduleFaults
    {h : HashOrder String}
    {s t : FaultController}
    (hDone : scheduleFaults h s = .done t) :
    Publishes s.subscription t.subscription
      (startupFaults h s).length := by
  rw [scheduleFaults_eq_forEach] at hDone
  apply Outcome.forEach_done
    (I := fun scheduled u =>
      Publishes s.subscription u.subscription
        (scheduled.filter fun item =>
          isInitiallyActive item.2
            s.scenario.initiallyActiveFaults).length)
    ?_ (publishes_none _) hDone
  rintro scheduled ⟨key, fault⟩ u v hScheduled _ hRound
  have hOne :=
    subscription_scheduleFault
      s.scenario.initiallyActiveFaults key fault u
  rw [hRound, Outcome.state_done] at hOne
  have hBoth := hScheduled.trans hOne
  rw [List.filter_append, List.length_append]
  convert hBoth using 2
  by_cases hActive :
      isInitiallyActive fault
        s.scenario.initiallyActiveFaults = true
  · simp [hActive]
  · simp [hActive]

/- The state a constructor has set up. -/
theorem subscription_of_started
    {h : HashOrder String}
    {factory : InjectorConfig → Bool}
    {scenario : ScenarioConfig}
    {c : FaultController}
    (hStarted : Started h factory scenario c) :
    Publishes { depth := 10 } c.subscription
      (startupFaults h c).length := by
  rcases hStarted with ⟨steadyNow, rosNow, hDone⟩
  let base : FaultController :=
    { node :=
        { steadyNow := steadyNow, rosNow := rosNow }
      scenario := scenario
      generation := 0 }
  unfold construct at hDone
  rcases Outcome.bind_eq_done_iff.mp hDone with
    ⟨s, hSchedule, hEnd⟩
  rw [Outcome.done.injEq] at hEnd
  subst hEnd
  have hBase :
      (registerFaults (createInjectors factory
        (startAssertionRunner base))).subscription =
          { depth := 10 } := by
    rw [registerFaults_subscription]
    exact setUp_proj factory base FaultController.subscription
      (fun _ _ => rfl) fun _ _ => rfl
  have hPublished := subscription_scheduleFaults hSchedule
  rw [hBase] at hPublished
  have hScenario :=
    (scheduleFaults_scenario h
      (registerFaults (createInjectors factory
        (startAssertionRunner base)))).1
  have hSame :=
    scheduleFaults_sameFaults h
      (registerFaults (createInjectors factory
        (startAssertionRunner base)))
  rw [hSchedule, Outcome.state_done] at hScenario hSame
  rw [← startupFaults_congr hScenario hSame.1] at hPublished
  exact hPublished

/- A returned reload publishes its startup activations. -/
theorem subscription_applyReload
    {h : HashOrder String}
    {newScenario : ScenarioConfig}
    {c after : FaultController}
    (hDone : applyReload h newScenario c = .done after) :
    Publishes c.subscription after.subscription
      (startupFaults h
        { c with scenario := newScenario }).length := by
  have hPublished := subscription_scheduleFaults hDone
  rw [registerFaults_subscription] at hPublished
  have hKeys :
      (registerFaults
          (clearScenario newScenario c)).injectors.keys =
        c.injectors.keys := by
    rw [registerFaults_keys]
    exact UnorderedMap.keys_mapValues _ _
  have hSame :
      startupFaults h
          (registerFaults (clearScenario newScenario c)) =
        startupFaults h { c with scenario := newScenario } :=
    startupFaults_congr (registerFaults_scenario _) hKeys
  rw [hSame] at hPublished
  exact hPublished

section Step

variable {h : HashOrder String}
variable {c after : FaultController}
variable {a : Action}

/- A config request that is accepted succeeds. -/
theorem acceptsConfig_eq_success
    (request : SetFaultConfigRequest) :
    c.acceptsConfig h request =
      (handleSetFaultConfig h request c).2.success := by
  rw [Bool.eq_iff_iff, setFaultConfig_success_iff]
  unfold acceptsConfig
  cases resolveFault h c request.faultId with
  | error message => simp
  | ok target =>
      cases hField :
          findSchemaField target.injector.configSchema
            request.key with
      | none => simp [hField]
      | some field => simp [hField]

/-
  A step of the node publishes the events of its action, or
  it delivers one.
-/
theorem subscription_nodeStep
    (hStep : c.nodeStep h a = some after) :
    (a = .deliver ∧
        c.subscription.deliver =
          some after.subscription) ∨
      Publishes c.subscription after.subscription
        (c.published h a) := by
  cases took_of_step (nodeStep_eq_some_iff.mp hStep).2 with
  | advanced => exact Or.inr (publishes_none _)
  | started hReady hCallback =>
      right
      unfold published
      simp only [hReady, hCallback]
      exact publishes_one _ _
  | stopped hReady hCallback =>
      right
      unfold published
      simp only [hReady, hCallback]
      exact publishes_one _ _
  | member hReady hCallback =>
      right
      unfold published
      simp only [hReady, hCallback]
      exact publishes_none _
  | unresolved hResolve =>
      right
      unfold published acceptsState
      simp only [hResolve]
      exact publishes_none _
  | switched hResolve =>
      right
      unfold published acceptsState
      simp only [hResolve]
      exact publishes_one _ _
  | refused hRefused =>
      right
      unfold published
      simp only [acceptsConfig_eq_success, hRefused]
      exact publishes_none _
  | stored hResolve hField hValid hUpdate =>
      right
      have hSuccess :=
        setFaultConfig_success_iff.mpr
          ⟨_, _, hResolve, hField, hValid⟩
      unfold published
      simp only [acceptsConfig_eq_success, hSuccess]
      exact publishes_one _ _
  | rejected hCheck =>
      right
      unfold published
      simp only [hCheck]
      exact publishes_none _
  | reloaded hCheck =>
      right
      unfold published
      simp only [hCheck]
      exact subscription_applyReload (applyReload_done hStep hCheck)
  | delivered hDelivered => exact Or.inl ⟨rfl, hDelivered⟩

end Step

------------------------------------------------------------
-- Whole Runs
------------------------------------------------------------

/- The subscription keeps at most its ten events. -/
def TenBounded (c : FaultController) : Prop :=
  Bounded c.subscription ∧ c.subscription.depth = 10

theorem TenBounded.publishes
    {s t : FaultController}
    {count : Nat}
    (hBounded : s.TenBounded)
    (hPublishes :
      Publishes s.subscription t.subscription count) :
    t.TenBounded := by
  rcases hPublishes with ⟨messages, _, hAfter⟩
  unfold TenBounded
  rw [hAfter, publishAll_depth]
  exact ⟨bounded_publishAll hBounded.1 messages, hBounded.2⟩

theorem TenBounded.nodeStep
    {h : HashOrder String}
    {s t : FaultController}
    {a : Action}
    (hBounded : s.TenBounded)
    (hStep : s.nodeStep h a = some t) :
    t.TenBounded := by
  rcases subscription_nodeStep hStep with
    ⟨_, hDeliver⟩ | hPublishes
  · refine ⟨hBounded.1.deliver hDeliver, ?_⟩
    rcases deliver_eq_some_iff.mp hDeliver with
      ⟨e, rest, _, hAfter⟩
    rw [hAfter]
    exact hBounded.2
  · exact hBounded.publishes hPublishes

/- A step loses no event exactly when its events fit. -/
theorem noEventLost_nodeStep_iff
    {h : HashOrder String}
    {s t : FaultController}
    {a : Action}
    (hBounded : s.TenBounded)
    (hIntact : s.NoEventLost)
    (hStep : s.nodeStep h a = some t) :
    t.NoEventLost ↔ EventsFit h s a := by
  unfold EventsFit
  rcases subscription_nodeStep hStep with
    ⟨rfl, hDeliver⟩ | ⟨messages, hLength, hAfter⟩
  · have hKept := Intact.deliver hIntact hDeliver
    have hRoom : s.subscription.queue.length ≤ 10 := by
      have hQueue := hBounded.1
      rw [Bounded, hBounded.2] at hQueue
      exact hQueue
    exact ⟨fun _ => hRoom, fun _ => hKept⟩
  · unfold NoEventLost
    rw [hAfter, intact_publishAll_iff hIntact hBounded.1,
      hLength, hBounded.2]

/-
  No event is lost at any point of a run exactly when the
  startup activations fit into the subscription and so do the
  events of every action when it happens.
-/
theorem no_event_lost_iff
    {h : HashOrder String}
    {factory : InjectorConfig → Bool}
    {scenario : ScenarioConfig}
    {c last : FaultController}
    {actions : List Action}
    (hStarted : Started h factory scenario c)
    (hRun : run (nodeStep h) c actions = some last) :
    Throughout (nodeStep h) NoEventLost c actions ↔
      (startupFaults h c).length ≤ 10 ∧
        Along (nodeStep h) (EventsFit h) c actions := by
  have hStartup := subscription_of_started hStarted
  have hEmpty :
      ∀ d : FaultController,
        d.subscription = { depth := 10 } →
          d.TenBounded ∧ d.NoEventLost := by
    intro d hD
    unfold TenBounded NoEventLost Bounded Intact
    rw [hD]
    exact ⟨⟨Nat.zero_le _, rfl⟩, rfl⟩
  rcases hEmpty { subscription := { depth := 10 } } rfl with
    ⟨hBase, hBaseIntact⟩
  have hBounded : c.TenBounded := hBase.publishes hStartup
  have hInitial :
      c.NoEventLost ↔ (startupFaults h c).length ≤ 10 := by
    rcases hStartup with ⟨messages, hLength, hAfter⟩
    unfold NoEventLost
    rw [hAfter, intact_publishAll_iff hBaseIntact hBase.1,
      hLength]
    exact ⟨fun hFits => by simpa using hFits,
      fun hFits => by simpa using hFits⟩
  by_cases hIntact : c.NoEventLost
  · have hAll :
        Along (nodeStep h) (fun _ _ => True) c actions :=
      along_of_forall (fun _ _ => True.intro) c actions
    rw [throughout_iff_along (J := TenBounded) ?_ ?_ hIntact
      hBounded hAll hRun]
    · exact ⟨fun hAlong => ⟨hInitial.mp hIntact, hAlong⟩,
        And.right⟩
    · intro s a t hS _ hStep
      exact hS.nodeStep hStep
    · intro s a t hS _ hI hStep
      exact noEventLost_nodeStep_iff hS hI hStep
  · constructor
    · intro hThroughout
      have hFirst :=
        throughout_iff.mp hThroughout [] actions c rfl rfl
      exact absurd hFirst hIntact
    · intro hFits
      exact absurd (hInitial.mpr hFits.1) hIntact

end FaultController

------------------------------------------------------------
-- Eleven Faults Active At Startup
------------------------------------------------------------

namespace FaultController.StartupBurst

open Transition

/- One injector with faults that are active at startup. -/
def scenario (ids : List String) : ScenarioConfig where
  injectors :=
    [{ id := "base", type := "odom",
       topic := some
        { inputTopic := "odom"
          outputTopic := "odom_faulty" } }]
  faults := ids.map fun id =>
    { id := id, injectorId := "base" }
  initiallyActiveFaults := ids

def elevenIds : List String :=
  ["a", "b", "c", "d", "e", "f", "g", "h", "i", "j", "k"]

def started (ids : List String) : FaultController :=
  (construct .insertion (fun _ => true) {} 0
    (scenario ids)).state

/-
  The constructor publishes eleven events before the executor
  runs, and the subscription drops the first of them.
-/
theorem event_lost :
    Started .insertion (fun _ => true) (scenario elevenIds)
        (started elevenIds) ∧
      (validateScenario .insertion
        (scenario elevenIds)).ok = true ∧
      ¬ Throughout (nodeStep .insertion) NoEventLost
          (started elevenIds) [] := by
  refine ⟨⟨0, 0, by rfl⟩, by decide, ?_⟩
  intro hThroughout
  have hIntact : KeepLast.Intact
      (started elevenIds).subscription := hThroughout
  revert hIntact
  decide

/- A manual activation and its delivery lose nothing. -/
theorem no_event_lost_of_one :
    Throughout (nodeStep .insertion) NoEventLost
      (started ["a"])
      [ .deliver, .setFaultState ⟨"a", false⟩,
        .deliver ] := by
  have hStarted :
      Started .insertion (fun _ => true) (scenario ["a"])
        (started ["a"]) :=
    ⟨0, 0, by rfl⟩
  have hSome :
      (run (nodeStep .insertion) (started ["a"])
        [ .deliver, .setFaultState ⟨"a", false⟩,
          .deliver ]).isSome = true := by
    decide
  rcases Option.isSome_iff_exists.mp hSome with ⟨last, hRun⟩
  apply (no_event_lost_iff hStarted hRun).mpr
  exact ⟨by decide, by decide⟩

end FaultController.StartupBurst
