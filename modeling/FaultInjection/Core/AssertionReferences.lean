import FaultInjection.Assertions.AnnouncedResults
import FaultInjection.Core.RegisteredFaults
import FaultInjection.Foundations.FramedParts

/-
  The faults that running assertions refer to.

  The controller starts its assertion runner once, with the
  assertions of the first scenario. A reload replaces the
  faults; the assertions go on.

  Key definitions include:
    * `MonitoredController`
    * `MonitoredController.ReferencesExist`
    * `MonitoredController.ReloadKeepsReferences`

  Key theorems include:
    * `FaultAssertionRunner.faultIds_step`
    * `FaultController.registers_applyReload_iff`
    * `MonitoredController.references_exist_iff`
-/

------------------------------------------------------------
-- Running Assertions
------------------------------------------------------------

namespace FaultAssertionRunner

/- The faults that the running assertions refer to. -/
def faultIds (r : FaultAssertionRunner) : List String :=
  (r.faultEventAssertions.map fun assertion =>
      assertion.config.faultId) ++
    r.twistStoppedAssertions.map fun assertion =>
      assertion.config.faultId

/- Assertions of these types refer to a fault. -/
def refersToFault (config : AssertionConfig) : Bool :=
  config.type = "fault_event" ∨ config.type = "twist_stopped"

theorem mem_faultIds_startAssertion_iff
    (r : FaultAssertionRunner)
    (config : AssertionConfig)
    (faultId : String) :
    faultId ∈ (startAssertion r config).faultIds ↔
      (refersToFault config = true ∧
          config.faultId = faultId) ∨
        faultId ∈ r.faultIds := by
  unfold startAssertion refersToFault faultIds
  by_cases hEvent : config.type = "fault_event"
  · simp only [hEvent, if_true, List.map_append,
      List.map_cons, List.map_nil, List.mem_append,
      List.mem_singleton, FaultEventAssertion.create]
    simp only [true_or, decide_true, true_and]
    rw [eq_comm, or_right_comm, or_comm]
  · by_cases hRate : config.type = "topic_hz"
    · simp [hRate]
    · by_cases hTwist : config.type = "twist_stopped"
      · simp only [hTwist, String.reduceEq, if_true, if_false,
          List.map_append, List.map_cons, List.map_nil,
          List.mem_append, List.mem_singleton,
          TwistStoppedAssertion.create]
        simp only [or_true, decide_true, true_and]
        rw [eq_comm, ← or_assoc, or_comm]
      · simp [hEvent, hRate, hTwist]

/- The runner starts the assertions it is given. -/
theorem mem_faultIds_start_iff
    {now : Int}
    {configs : List AssertionConfig}
    {r : FaultAssertionRunner}
    {faultId : String} :
    faultId ∈ (start now configs r).faultIds ↔
      ∃ config ∈ configs,
        refersToFault config = true ∧
          config.faultId = faultId := by
  unfold start
  suffices hGeneral :
      ∀ s : FaultAssertionRunner,
        faultId ∈ (configs.foldl startAssertion s).faultIds ↔
          (∃ config ∈ configs,
            refersToFault config = true ∧
              config.faultId = faultId) ∨
            faultId ∈ s.faultIds by
    rw [hGeneral]
    simp [faultIds]
  induction configs with
  | nil => simp
  | cons config configs ih =>
      intro s
      rw [List.foldl_cons, ih,
        mem_faultIds_startAssertion_iff]
      simp only [List.mem_cons, exists_eq_or_imp]
      rw [← or_assoc, or_comm (b := _ ∧ _)]

/- Publishing changes only what is known as published. -/
theorem publishAssertionEvent_proj
    {α : Type}
    (proj : FaultAssertionRunner → α)
    (hProj :
      ∀ r published states,
        proj
            { r with
              published := published
              lastPublishedStates := states } =
          proj r)
    (stampOf : String → Int)
    (r : FaultAssertionRunner) :
    proj (publishAssertionEvent stampOf r) = proj r := by
  unfold publishAssertionEvent
  generalize r.results = results
  induction results generalizing r with
  | nil => exact rfl
  | cons result results ih =>
      rw [List.foldl_cons, ih]
      unfold publishResult
      split
      · exact rfl
      · split
        · exact rfl
        · exact hProj r _ _

theorem faultIds_publishAssertionEvent
    (stampOf : String → Int)
    (r : FaultAssertionRunner) :
    (publishAssertionEvent stampOf r).faultIds =
      r.faultIds :=
  publishAssertionEvent_proj faultIds (fun _ _ _ => rfl)
    stampOf r

theorem startTime_publishAssertionEvent
    (stampOf : String → Int)
    (r : FaultAssertionRunner) :
    (publishAssertionEvent stampOf r).startTime =
      r.startTime :=
  publishAssertionEvent_proj FaultAssertionRunner.startTime
    (fun _ _ _ => rfl) stampOf r

/- No callback changes what the assertions refer to. -/
theorem faultIds_step
    {fromSeconds : Number → Int}
    {r s : FaultAssertionRunner}
    {call : Call}
    (hStep : step fromSeconds r call = some s) :
    s.faultIds = r.faultIds := by
  have hTwist :
      ∀ (twistCall : TwistStoppedAssertion.Call)
        (a b : TwistStoppedAssertion),
        TwistStoppedAssertion.step fromSeconds a twistCall =
            some b →
          b.config.faultId = a.config.faultId := by
    intro twistCall a b hCall
    rw [(TwistStoppedAssertion.step_continues hCall).config]
  cases call with
  | faultEvent event stampOf =>
      rcases Option.bind_eq_some_iff.mp hStep with
        ⟨twists, hTwists, hDone⟩
      cases hDone
      rw [faultIds_publishAssertionEvent]
      have hKept :=
        map_eq_of_forall₂
          ((Option.mapM_eq_some_iff.mp hTwists).imp
            (hTwist
              (.faultEvent event.toFaultEvent event.stamp
                event.stamp)))
      unfold faultIds
      rw [hKept, List.map_map]
      congr 2
      funext assertion
      simp only [Function.comp_apply,
        FaultEventAssertion.observe_config]
  | topicHzMessage index now =>
      rcases Option.bind_eq_some_iff.mp hStep with
        ⟨rates, hRates, hDone⟩
      cases hDone
      exact rfl
  | twistMessage index message now =>
      rcases Option.bind_eq_some_iff.mp hStep with
        ⟨twists, hTwists, hDone⟩
      cases hDone
      have hObserved :
          ∀ a b : TwistStoppedAssertion,
            b = a ∨
                TwistStoppedAssertion.step fromSeconds a
                    (.message message now) =
                  some b →
              b.config.faultId = a.config.faultId := by
        intro a b hCase
        rcases hCase with hSame | hObserve
        · rw [hSame]
        · exact hTwist (.message message now) a b hObserve
      have hKept :=
        map_eq_of_forall₂
          ((forall₂_of_changeAt hTwists).imp hObserved)
      unfold faultIds
      rw [hKept]
  | update readings =>
      rcases Option.bind_eq_some_iff.mp hStep with
        ⟨twists, hTwists, hDone⟩
      cases hDone
      change (publishAssertionEvent _ _).faultIds = _
      rw [faultIds_publishAssertionEvent]
      have hKept :=
        map_eq_of_forall₂
          ((Option.mapM_eq_some_iff.mp hTwists).imp
            (hTwist (.update readings.now)))
      unfold faultIds
      rw [hKept, List.map_map]
      congr 2
      funext assertion
      simp only [Function.comp_apply,
        FaultEventAssertion.update_config]

/- The runner keeps the time at which it was started. -/
theorem startTime_step
    {fromSeconds : Number → Int}
    {r s : FaultAssertionRunner}
    {call : Call}
    (hStep : step fromSeconds r call = some s) :
    s.startTime = r.startTime := by
  cases call with
  | faultEvent event stampOf =>
      rcases Option.bind_eq_some_iff.mp hStep with
        ⟨twists, _, hDone⟩
      cases hDone
      rw [startTime_publishAssertionEvent]
  | topicHzMessage index now =>
      rcases Option.bind_eq_some_iff.mp hStep with
        ⟨rates, _, hDone⟩
      cases hDone
      exact rfl
  | twistMessage index message now =>
      rcases Option.bind_eq_some_iff.mp hStep with
        ⟨twists, _, hDone⟩
      cases hDone
      exact rfl
  | update readings =>
      rcases Option.bind_eq_some_iff.mp hStep with
        ⟨twists, _, hDone⟩
      cases hDone
      change (publishAssertionEvent _ _).startTime = _
      rw [startTime_publishAssertionEvent]

end FaultAssertionRunner

------------------------------------------------------------
-- Registered Faults
------------------------------------------------------------

namespace FaultController

open FaultServiceManager

/- Some injector has the fault. -/
def Registers
    (c : FaultController)
    (faultId : String) : Prop :=
  ∃ key, c.hasFault key faultId = true

/-
  When the injectors that run store what a list of faults has
  for them, the ids of that list are registered.
-/
theorem registers_iff_of_faultConfig
    {c : FaultController}
    {faults : List FaultConfig}
    {Runs : String → Prop}
    [DecidablePred Runs]
    {faultId : String}
    (hStored :
      ∀ key,
        c.faultConfig key faultId =
          if Runs key then
            lastFault key faultId faults
          else
            none) :
    c.Registers faultId ↔
      ∃ fault ∈ faults,
        fault.id = faultId ∧ Runs fault.injectorId := by
  unfold Registers
  simp only [hasFault_iff_faultConfig, hStored]
  constructor
  · intro hSome
    rcases hSome with ⟨key, fault, hFault⟩
    rw [Option.ite_none_right_eq_some] at hFault
    rcases mem_of_lastFault hFault.2 with
      ⟨hMember, hKey, hId⟩
    refine ⟨fault, hMember, hId, ?_⟩
    rw [hKey]
    exact hFault.1
  · intro hListed
    rcases hListed with ⟨fault, hMember, hId, hRuns⟩
    refine ⟨fault.injectorId, ?_⟩
    rw [if_pos hRuns]
    exact exists_lastFault_iff.mpr
      ⟨fault, hMember, rfl, hId⟩

variable {h : HashOrder String}
variable {faultId : String}

theorem registers_construct_iff
    {factory : InjectorConfig → Bool}
    {node : CallbackNode Owner Callback}
    {generation : Nat}
    {scenario : ScenarioConfig}
    {c : FaultController}
    (hConstruct :
      construct h factory node generation scenario =
        .done c) :
    c.Registers faultId ↔
      ∃ fault ∈ scenario.faults,
        fault.id = faultId ∧
          Creates factory scenario fault.injectorId :=
  registers_iff_of_faultConfig fun key =>
    (faultConfig_of_construct hConstruct key).2 faultId

/- An accepted reload registers what the new file lists. -/
theorem registers_applyReload_iff
    {newScenario : ScenarioConfig}
    {c : FaultController} :
    (applyReload h newScenario c).state.Registers faultId ↔
      ∃ fault ∈ newScenario.faults,
        fault.id = faultId ∧
          (c.injector? fault.injectorId).isSome = true :=
  registers_iff_of_faultConfig fun key =>
    faultConfig_applyReload newScenario key faultId

end FaultController

------------------------------------------------------------
-- Controllers With Their Assertions
------------------------------------------------------------

/- A controller and the assertion runner that it owns. -/
structure MonitoredController where
  controller : FaultController
  runner : FaultAssertionRunner

namespace MonitoredController

open Transition
open FaultAssertionRunner (refersToFault)

/-
  The constructor starts the runner with the assertions of
  its scenario, at the time the node shows.
-/
def Started
    (h : HashOrder String)
    (factory : InjectorConfig → Bool)
    (scenario : ScenarioConfig)
    (s : MonitoredController) : Prop :=
  ∃ steadyNow rosNow,
    FaultController.construct h factory
        { steadyNow := steadyNow, rosNow := rosNow } 0
        scenario =
      .done s.controller ∧
      s.runner =
        FaultAssertionRunner.start rosNow
          scenario.assertions {}

/- What happens to the controller or calls the runner. -/
inductive Action where
| controller : FaultController.Action → Action
| runner : FaultAssertionRunner.Call → Action

/-
  Nothing that the controller does, a reload included, sets
  up the runner anew.
-/
def step
    (fromSeconds : Number → Int)
    (h : HashOrder String)
    (s : MonitoredController) :
    Action → Option MonitoredController
| .controller a =>
    (s.controller.step h a).map fun controller =>
      { s with controller := controller }
| .runner call =>
    (s.runner.step fromSeconds call).map fun runner =>
      { s with runner := runner }

theorem step_controller
    {fromSeconds : Number → Int}
    {h : HashOrder String}
    {s : MonitoredController}
    {a : FaultController.Action}
    {c : FaultController}
    (hStep : s.controller.step h a = some c) :
    step fromSeconds h s (.controller a) =
      some { s with controller := c } := by
  rw [step, hStep, Option.map_some]

/- Every running assertion refers to a registered fault. -/
def ReferencesExist (s : MonitoredController) : Prop :=
  ∀ faultId ∈ s.runner.faultIds,
    s.controller.Registers faultId

/-
  The faults that the scenario's assertions refer to belong
  to injectors that the factory creates.
-/
def ReferencesCreated
    (factory : InjectorConfig → Bool)
    (scenario : ScenarioConfig) : Prop :=
  ∀ config ∈ scenario.assertions,
    refersToFault config = true →
      ∃ fault ∈ scenario.faults,
        fault.id = config.faultId ∧
          FaultController.Creates factory scenario
            fault.injectorId

instance
    (factory : InjectorConfig → Bool)
    (scenario : ScenarioConfig) :
    Decidable (ReferencesCreated factory scenario) :=
  inferInstanceAs
    (Decidable (∀ config ∈ scenario.assertions, _ → _))

/-
  A scenario that a reload accepts lists every fault that a
  running assertion refers to, for an injector that runs.
-/
def ReloadKeepsReferences
    (h : HashOrder String)
    (s : MonitoredController) : Action → Prop
| .controller (.reloadScenario content) =>
    ∀ newScenario,
      content = .ok newScenario →
        (validateScenario h newScenario).ok = true →
          (s.controller.validateReloadCompatible
              newScenario).success =
            true →
            ∀ faultId ∈ s.runner.faultIds,
              ∃ fault ∈ newScenario.faults,
                fault.id = faultId ∧
                  (s.controller.injector?
                      fault.injectorId).isSome =
                    true
| _ => True

section References

variable {h : HashOrder String}
variable {fromSeconds : Number → Int}
variable {factory : InjectorConfig → Bool}
variable {scenario : ScenarioConfig}
variable {s t : MonitoredController}

theorem references_exist_of_started_iff
    (hStarted : Started h factory scenario s) :
    s.ReferencesExist ↔
      ReferencesCreated factory scenario := by
  rcases hStarted with
    ⟨steadyNow, rosNow, hConstruct, hRunner⟩
  unfold ReferencesExist ReferencesCreated
  simp only [hRunner,
    FaultAssertionRunner.mem_faultIds_start_iff,
    FaultController.registers_construct_iff hConstruct]
  constructor
  · intro hAll config hConfig hRefers
    exact hAll config.faultId ⟨config, hConfig, hRefers, rfl⟩
  · intro hAll faultId hListed
    rcases hListed with ⟨config, hConfig, hRefers, hId⟩
    rw [← hId]
    exact hAll config hConfig hRefers

/-
  What the validator checks: in an accepted scenario whose
  injectors are all created, the references exist at first.
-/
theorem referencesCreated_of_ok
    (hOk : (validateScenario h scenario).ok = true)
    (hCreated :
      ∀ config ∈ scenario.injectors,
        factory config = true) :
    ReferencesCreated factory scenario := by
  intro config hConfig hRefers
  have hType :
      config.type = "fault_event" ∨
        config.type = "twist_stopped" := by
    simpa [refersToFault] using hRefers
  have hExists := faultExists_of_ok hOk hConfig hType
  unfold ScenarioConfig.faultExists at hExists
  simp only [List.any_eq_true, decide_eq_true_iff] at hExists
  rcases hExists with ⟨fault, hFault, hId⟩
  exact ⟨fault, hFault, hId,
    FaultController.creates_of_ok hOk hFault hCreated⟩

/-
  A reload keeps the references exactly if a scenario that it
  accepts lists the faults they name.
-/
theorem references_exist_reload_iff
    {content : Except String ScenarioConfig}
    {controller : FaultController}
    (hExist : s.ReferencesExist)
    (hReload :
      s.controller.step h (.reloadScenario content) =
        some controller) :
    ReferencesExist { s with controller := controller } ↔
      ReloadKeepsReferences h s
        (.controller (.reloadScenario content)) := by
  rw [FaultController.step, Option.some.injEq] at hReload
  subst hReload
  rcases FaultController.reloadScenario_cases
      (h := h) (c := s.controller) content with
    ⟨result, hCheck, hDone⟩ | ⟨newScenario, hCheck, hApply⟩
  · -- a reload that fails its checks changes nothing
    rw [hDone, Outcome.state_done]
    refine ⟨fun _ => ?_, fun _ => hExist⟩
    intro newScenario hContent hOk hCompatible
    have hPassed :=
      FaultController.checkReload_eq_ok_iff.mpr
        ⟨hContent, hOk, hCompatible⟩
    rw [hCheck] at hPassed
    cases hPassed
  · rcases FaultController.checkReload_eq_ok_iff.mp hCheck with
      ⟨hContent, hOk, hCompatible⟩
    rw [hApply]
    unfold ReferencesExist
    simp only [FaultController.registers_applyReload_iff]
    constructor
    · intro hAll other hOther _ _
      have hSame : other = newScenario :=
        Except.ok.inj (hOther.symm.trans hContent)
      rw [hSame]
      exact hAll
    · intro hAll
      exact hAll newScenario hContent hOk hCompatible

/- A step keeps the references exactly if it is permitted. -/
theorem references_exist_step_iff
    {a : Action}
    (hExist : s.ReferencesExist)
    (hStep : step fromSeconds h s a = some t) :
    t.ReferencesExist ↔ ReloadKeepsReferences h s a := by
  cases a with
  | runner call =>
      rcases Option.map_eq_some_iff.mp hStep with
        ⟨runner, hCall, hEnd⟩
      subst hEnd
      have hIds := FaultAssertionRunner.faultIds_step hCall
      unfold ReferencesExist
      rw [hIds]
      exact ⟨fun _ => True.intro, fun _ => hExist⟩
  | controller a =>
      rcases Option.map_eq_some_iff.mp hStep with
        ⟨controller, hAction, hEnd⟩
      subst hEnd
      by_cases hReload : ∃ content, a = .reloadScenario content
      · rcases hReload with ⟨content, hContent⟩
        subst hContent
        exact references_exist_reload_iff hExist hAction
      · have hNoReload :
            ∀ content, a ≠ .reloadScenario content :=
          fun content hSame => hReload ⟨content, hSame⟩
        have hSame :=
          FaultController.hasFault_step hNoReload hAction
        have hKept :
            ReferencesExist { s with controller := controller } := by
          intro faultId hListed
          rcases hExist faultId hListed with ⟨key, hHas⟩
          exact ⟨key, (hSame key faultId).trans hHas⟩
        refine ⟨fun _ => ?_, fun _ => hKept⟩
        cases a with
        | reloadScenario content =>
            exact absurd rfl (hNoReload content)
        | _ => exact True.intro

/-
  In every run of a constructed controller, with any reloads,
  the running assertions refer to registered faults in every
  state exactly if they do at first and each scenario that a
  reload accepts lists the faults they name.
-/
theorem references_exist_iff
    {actions : List Action}
    (hStarted : Started h factory scenario s)
    (hRun : run (step fromSeconds h) s actions = some t) :
    Throughout (step fromSeconds h) ReferencesExist s
        actions ↔
      ReferencesCreated factory scenario ∧
        Along (step fromSeconds h) (ReloadKeepsReferences h)
          s actions := by
  rw [← references_exist_of_started_iff hStarted]
  have hRest :
      s.ReferencesExist →
        (Throughout (step fromSeconds h) ReferencesExist s
            actions ↔
          Along (step fromSeconds h)
            (ReloadKeepsReferences h) s actions) := by
    intro hExist
    refine throughout_iff_along (J := fun _ => True)
      (D := fun _ _ => True) ?_ ?_ hExist True.intro
      (along_of_forall (fun _ _ => True.intro) s actions) hRun
    · exact fun _ _ _ _ _ _ => True.intro
    · exact fun _ _ _ _ _ hHere hStep =>
        references_exist_step_iff hHere hStep
  constructor
  · intro hThroughout
    have hFirst :=
      throughout_iff.mp hThroughout [] actions s rfl rfl
    exact ⟨hFirst, (hRest hFirst).mp hThroughout⟩
  · intro hBoth
    exact (hRest hBoth.1).mpr hBoth.2

end References

end MonitoredController

------------------------------------------------------------
-- A Renamed Fault
------------------------------------------------------------

namespace MonitoredController.Renaming

open Transition

/- One fault and an assertion about it. -/
def scenario (faultId : String) : ScenarioConfig where
  injectors :=
    [{ id := "base", type := "odom",
       topic := some
        { inputTopic := "odom"
          outputTopic := "odom_faulty" } }]
  faults := [{ id := faultId, injectorId := "base" }]
  assertions :=
    [{ id := "seen", type := "fault_event",
       faultId := faultId, state := "active" }]

def started : MonitoredController where
  controller :=
    (FaultController.construct .insertion (fun _ => true) {} 0
      (scenario "bias")).state
  runner :=
    FaultAssertionRunner.start 0
      (scenario "bias").assertions {}

theorem started_started :
    Started .insertion (fun _ => true) (scenario "bias")
      started :=
  ⟨0, 0, by rfl, rfl⟩

def reload (faultId : String) : Action :=
  .controller (.reloadScenario (.ok (scenario faultId)))

/-
  After a reload that renames the fault the assertion goes on
  to wait for the old name.
-/
theorem references_get_lost :
    ¬ ∀ (scenario : ScenarioConfig)
        (s t : MonitoredController)
        (contents : List (Except String ScenarioConfig)),
      (validateScenario .insertion scenario).ok = true →
        Started .insertion (fun _ => true) scenario s →
          run (step (fun _ => 0) .insertion) s
              (contents.map fun content =>
                .controller (.reloadScenario content)) =
            some t →
            t.ReferencesExist := by
  intro hAll
  let controller :=
    (FaultController.applyReload .insertion (scenario "drift")
      started.controller).state
  have hExist :=
    hAll (scenario "bias") started
      { started with controller := controller }
      [.ok (scenario "drift")] (by decide) started_started
      (by rfl) "bias" (by decide)
  rw [FaultController.registers_applyReload_iff] at hExist
  revert hExist
  decide

/- A reload that keeps the fault keeps the reference. -/
theorem references_exist_after_reload :
    Throughout (step (fun _ => 0) .insertion) ReferencesExist
      started [reload "bias"] := by
  have hRun :
      run (step (fun _ => 0) .insertion) started
          [reload "bias"] =
        some
          { started with
            controller :=
              (FaultController.applyReload .insertion
                (scenario "bias")
                started.controller).state } := by
    rfl
  apply (references_exist_iff started_started hRun).mpr
  refine ⟨by decide, ?_, fun _ _ => True.intro⟩
  intro newScenario hContent _ _
  rw [Except.ok.injEq] at hContent
  subst hContent
  decide

end MonitoredController.Renaming
