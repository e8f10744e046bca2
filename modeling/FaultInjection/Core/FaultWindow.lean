import FaultInjection.Core.EventLog

/-
  How a fault with a start and a duration ends.

  The start and the stop of a fault are two unrelated timers.
  When both are due the executor may run the stop timer
  first, and the start timer then leaves the fault active.

  Key definitions include:
    * `FaultController.HasRun`
    * `FaultController.EndsInactive`
    * `FaultController.Undisturbed`
    * `FaultController.StartsBeforeStop`

  Key theorems include:
    * `FaultController.endsInactive_runStart_iff`
    * `FaultController.endsInactive_runStop`
    * `FaultController.fault_ends_inactive_iff`
-/

------------------------------------------------------------
-- Timers That Have Run
------------------------------------------------------------

namespace FaultController

open FaultScheduler FaultServiceManager Transition

/- A timer with the callback has run. -/
def HasRun
    (c : FaultController)
    (callback : Callback) : Prop :=
  ∃ e ∈ c.node.entities,
    e.callback = callback ∧ e.cancelled = true

section HasRun

variable {c after : FaultController}
variable {callback : Callback}

theorem hasRun_of_entities_eq
    (hEntities :
      after.node.entities = c.node.entities) :
    after.HasRun callback ↔ c.HasRun callback := by
  unfold HasRun
  rw [hEntities]

/- Running an entity adds its callback to those that ran. -/
theorem hasRun_cancel_iff
    {n : Nat}
    {e : CallbackEntity Callback}
    (hEntity : c.node.entities[n]? = some e)
    (hNode : after.node = c.node.cancel n) :
    after.HasRun callback ↔
      c.HasRun callback ∨ e.callback = callback := by
  unfold HasRun
  simp only [List.mem_iff_getElem?]
  rw [hNode]
  constructor
  · rintro ⟨d, ⟨m, hAt⟩, hCallback, hCancelled⟩
    rw [CallbackNode.cancel_entities,
      Option.map_eq_some_iff] at hAt
    rcases hAt with ⟨old, hOld, rfl⟩
    by_cases hSame : n = m
    · subst hSame
      rw [hEntity, Option.some.injEq] at hOld
      subst hOld
      right
      simpa using hCallback
    · simp only [hSame, if_false] at hCallback hCancelled
      exact Or.inl ⟨old, ⟨m, hOld⟩, hCallback, hCancelled⟩
  · rintro (⟨old, ⟨m, hOld⟩, hCallback, hCancelled⟩ | hRuns)
    · by_cases hSame : n = m
      · refine ⟨{ old with cancelled := true }, ⟨m, ?_⟩,
          hCallback, rfl⟩
        rw [CallbackNode.cancel_entities, hOld]
        simp [hSame]
      · refine ⟨old, ⟨m, ?_⟩, hCallback, hCancelled⟩
        rw [CallbackNode.cancel_entities, hOld]
        simp [hSame]
    · refine ⟨{ e with cancelled := true }, ⟨n, ?_⟩, hRuns,
        rfl⟩
      rw [CallbackNode.cancel_entities, hEntity]
      simp

end HasRun

------------------------------------------------------------
-- The End Of A Fault
------------------------------------------------------------

/- The fault's flag is clear and its last event says so. -/
def EndedInactive
    (fault : FaultConfig)
    (c : FaultController) : Prop :=
  c.isActive fault.injectorId fault.id = false ∧
    (c.recorder.lastEvent fault.id).map
        (fun event => event.state) =
      some "inactive"

/-
  Once the start timer and the stop timer of the fault have
  run, the fault has ended inactive.
-/
def EndsInactive
    (fault : FaultConfig)
    (c : FaultController) : Prop :=
  c.HasRun (.startFault fault.injectorId fault) →
    c.HasRun (.stopFault fault.injectorId fault) →
      EndedInactive fault c

/-
  No request changes the fault and no reload replaces it. A
  reload that is rejected is no disturbance.
-/
def Undisturbed
    (h : HashOrder String)
    (fault : FaultConfig)
    (c : FaultController) : Action → Prop
| .setFaultState request => request.faultId ≠ fault.id
| .setFaultConfig request => request.faultId ≠ fault.id
| .reloadScenario content =>
    ∀ newScenario, c.checkReload h content ≠ .ok newScenario
| _ => True

/-
  A callback that starts the fault's id does not run after
  the stop timer of the fault, if the fault's own start timer
  is that callback or has run before.
-/
def StartsInTime
    (fault : FaultConfig)
    (c : FaultController) : Callback → Prop
| .startFault key other =>
    other.id = fault.id →
      c.HasRun (.stopFault fault.injectorId fault) →
        ¬ (c.HasRun (.startFault fault.injectorId fault) ∨
          Callback.startFault key other =
            .startFault fault.injectorId fault)
| _ => True

/- No timer starts the fault again after its stop timer. -/
def StartsBeforeStop
    (fault : FaultConfig)
    (c : FaultController) : Action → Prop
| .callback n =>
    ∀ e, c.node.ready n = some e →
      StartsInTime fault c e.callback
| _ => True

instance
    (c : FaultController)
    (callback : Callback) :
    Decidable (c.HasRun callback) := by
  unfold HasRun
  infer_instance

instance
    (fault : FaultConfig)
    (c : FaultController) :
    ∀ callback, Decidable (StartsInTime fault c callback)
| .startFault _ _ => inferInstanceAs (Decidable (_ → _))
| .stopFault _ _ => isTrue True.intro
| .member _ => isTrue True.intro

instance
    (fault : FaultConfig)
    (c : FaultController) :
    ∀ a, Decidable (StartsBeforeStop fault c a)
| .callback n =>
    Transition.decidableAfter (c.node.ready n)
      fun _ => inferInstance
| .advance _ _ => isTrue True.intro
| .setFaultState _ => isTrue True.intro
| .setFaultConfig _ => isTrue True.intro
| .reloadScenario _ => isTrue True.intro
| .deliver => isTrue True.intro

/- Only registered faults have their flag set. -/
def FlagsRegistered (c : FaultController) : Prop :=
  ∀ key faultId, c.isActive key faultId = true →
    c.hasFault key faultId = true

section Frame

variable {fault : FaultConfig}
variable {c after : FaultController}

/- The end depends on timers, one flag and one fault's log. -/
theorem endsInactive_congr
    (hRun :
      ∀ callback,
        callback = .startFault fault.injectorId fault ∨
            callback = .stopFault fault.injectorId fault →
          (after.HasRun callback ↔ c.HasRun callback))
    (hFlag :
      after.isActive fault.injectorId fault.id =
        c.isActive fault.injectorId fault.id)
    (hLast :
      (after.recorder.lastEvent fault.id).map
          (fun event => event.state) =
        (c.recorder.lastEvent fault.id).map
          fun event => event.state) :
    EndsInactive fault after ↔ EndsInactive fault c := by
  unfold EndsInactive EndedInactive
  rw [hRun _ (Or.inl rfl), hRun _ (Or.inr rfl), hFlag, hLast]

theorem Switches.lastEvent
    {key faultId : String}
    {value : Bool}
    (hSwitch : Switches c after key faultId value)
    (id : String) :
    (after.recorder.lastEvent id).map
        (fun event => event.state) =
      if faultId = id then
        some (stateText value)
      else
        (c.recorder.lastEvent id).map
          fun event => event.state := by
  rcases hSwitch.recorded with ⟨source, hRecords⟩
  exact hRecords.lastEvent id

/- Switching another fault does not matter. -/
theorem endsInactive_of_other
    {key faultId : String}
    {value : Bool}
    (hSwitch : Switches c after key faultId value)
    (hOther : faultId ≠ fault.id)
    (hRun :
      ∀ callback,
        callback = .startFault fault.injectorId fault ∨
            callback = .stopFault fault.injectorId fault →
          (after.HasRun callback ↔ c.HasRun callback)) :
    EndsInactive fault after ↔ EndsInactive fault c := by
  apply endsInactive_congr hRun
  · rw [hSwitch.isActive, if_neg]
    intro hAll
    exact hOther hAll.2.1
  · rw [hSwitch.lastEvent, if_neg hOther]

end Frame

------------------------------------------------------------
-- One Timer
------------------------------------------------------------

section Timers

variable {fault other : FaultConfig}
variable {c : FaultController}
variable {n : Nat}
variable {e : CallbackEntity Callback}
variable {key : String}

/-
  A start timer leaves the fault ended inactive exactly if it
  is for another fault or not both timers have run then.
-/
theorem endsInactive_runStart_iff
    (hReady : c.node.ready n = some e)
    (hCallback : e.callback = .startFault key other)
    (hEnds : EndsInactive fault c) :
    EndsInactive fault (runStart n key other c) ↔
      (other.id = fault.id →
        c.HasRun (.stopFault fault.injectorId fault) →
          ¬ (c.HasRun (.startFault fault.injectorId fault) ∨
            Callback.startFault key other =
              .startFault fault.injectorId fault)) := by
  rw [← hCallback]
  have hEntity :=
    (CallbackNode.ready_eq_some_iff.mp hReady).1
  have hSwitch := runStart_switches c key other n
  have hRan :
      ∀ callback,
        (runStart n key other c).HasRun callback ↔
          c.HasRun callback ∨ e.callback = callback :=
    fun callback => hasRun_cancel_iff hEntity rfl
  have hNotStop :
      e.callback ≠ .stopFault fault.injectorId fault := by
    rw [hCallback]
    intro hSame
    cases hSame
  by_cases hId : other.id = fault.id
  · have hLast :
        ¬ EndedInactive fault (runStart n key other c) := by
      intro hEnded
      have hState := hEnded.2
      rw [hSwitch.lastEvent, if_pos hId] at hState
      revert hState
      decide
    constructor
    · intro hAfter _ hStop hStart
      exact hLast (hAfter ((hRan _).mpr hStart)
        ((hRan _).mpr (Or.inl hStop)))
    · intro hFree hStart hStop
      rw [hRan] at hStart hStop
      have hStopBefore := hStop.resolve_right hNotStop
      exact absurd hStart (hFree hId hStopBefore)
  · have hNotStart :
        e.callback ≠ .startFault fault.injectorId fault := by
      rw [hCallback]
      intro hSame
      rw [Callback.startFault.injEq] at hSame
      exact hId (by rw [hSame.2])
    have hKept :
        EndsInactive fault (runStart n key other c) ↔
          EndsInactive fault c := by
      apply endsInactive_of_other hSwitch hId
      rintro callback (rfl | rfl)
      · rw [hRan, or_iff_left hNotStart]
      · rw [hRan, or_iff_left hNotStop]
    exact ⟨fun _ hSame => absurd hSame hId,
      fun _ => hKept.mpr hEnds⟩

/- A stop timer never leaves the fault active. -/
theorem endsInactive_runStop
    (hFlags : c.FlagsRegistered)
    (hReady : c.node.ready n = some e)
    (hCallback : e.callback = .stopFault key other)
    (hEnds : EndsInactive fault c) :
    EndsInactive fault (runStop n key other c) := by
  have hEntity :=
    (CallbackNode.ready_eq_some_iff.mp hReady).1
  have hSwitch := runStop_switches c key other n
  have hRan :
      ∀ callback,
        (runStop n key other c).HasRun callback ↔
          c.HasRun callback ∨ e.callback = callback :=
    fun callback => hasRun_cancel_iff hEntity rfl
  have hNotStart :
      e.callback ≠ .startFault fault.injectorId fault := by
    rw [hCallback]
    intro hSame
    cases hSame
  by_cases hId : other.id = fault.id
  · intro hStart hStop
    rw [hRan, or_iff_left hNotStart] at hStart
    rw [hRan] at hStop
    refine ⟨?_, ?_⟩
    · rw [hSwitch.isActive, hId]
      by_cases hKey : key = fault.injectorId
      · subst hKey
        by_cases hHas : c.hasFault fault.injectorId fault.id
        · simp [hHas]
        · rw [if_neg (by simp [hHas])]
          by_contra hActive
          have hSet := hFlags fault.injectorId fault.id
          simp only [Bool.not_eq_false] at hActive
          exact hHas (hSet hActive)
      · -- a fault of the same id on another injector
        have hNotStop :
            e.callback ≠ .stopFault fault.injectorId fault := by
          rw [hCallback]
          intro hSame
          rw [Callback.stopFault.injEq] at hSame
          exact hKey hSame.1
        rw [if_neg (by simp [hKey])]
        exact (hEnds hStart (hStop.resolve_right hNotStop)).1
    · rw [hSwitch.lastEvent, if_pos hId]
      rfl
  · have hNotStop :
        e.callback ≠ .stopFault fault.injectorId fault := by
      rw [hCallback]
      intro hSame
      rw [Callback.stopFault.injEq] at hSame
      exact hId (by rw [hSame.2])
    rw [endsInactive_of_other hSwitch hId]
    · exact hEnds
    · rintro callback (rfl | rfl)
      · rw [hRan, or_iff_left hNotStart]
      · rw [hRan, or_iff_left hNotStop]

end Timers

------------------------------------------------------------
-- Flags Of Registered Faults
------------------------------------------------------------

section Flags

variable {h : HashOrder String}
variable {c after : FaultController}

theorem NoFlags.flagsRegistered
    (hNone : c.NoFlags) :
    c.FlagsRegistered := by
  intro key faultId hActive
  rw [hNone key faultId] at hActive
  cases hActive

theorem FlagsRegistered.of_injectors_eq
    (hFlags : c.FlagsRegistered)
    (hInjectors : after.injectors = c.injectors) :
    after.FlagsRegistered := by
  unfold FlagsRegistered isActive hasFault injector?
  rw [hInjectors]
  exact hFlags

theorem FlagsRegistered.switches
    {key faultId : String}
    {value : Bool}
    (hFlags : c.FlagsRegistered)
    (hSwitch : Switches c after key faultId value) :
    after.FlagsRegistered := by
  intro k id hActive
  rw [hSwitch.isActive] at hActive
  rw [hSwitch.hasFault]
  split at hActive
  · rename_i hHere
    rw [← hHere.1, ← hHere.2.1]
    exact hHere.2.2
  · exact hFlags k id hActive

theorem FlagsRegistered.sameLog
    (hFlags : c.FlagsRegistered)
    (hSame : SameLog c after) :
    after.FlagsRegistered := by
  intro k id hActive
  rw [hSame.flags] at hActive
  rw [hSame.faults]
  exact hFlags k id hActive

theorem FlagsRegistered.registerFault
    (hFlags : c.FlagsRegistered)
    (fault : FaultConfig) :
    (registerFault c fault).FlagsRegistered := by
  intro key faultId hActive
  have hOld := hFlags key faultId
  unfold FaultController.registerFault hasFault
    FaultController.isActive at *
  rw [injector?_modifyInjector] at hActive ⊢
  by_cases hKey : fault.injectorId = key
  · simp only [hKey, if_true] at hActive ⊢
    cases hInjector : c.injector? key with
    | none => simp [hInjector] at hActive
    | some injector =>
        rw [hInjector, Option.any_some] at hOld
        simp only [hInjector, Option.map_some,
          Option.any_some, FaultInjectorBase.isActive_addFault,
          Bool.and_eq_true] at hActive
        have hHas := hOld hActive.2
        rw [Option.any_some] at hHas
        simp [FaultInjectorBase.hasFault_addFault, hHas]
  · simp only [hKey, if_false] at hActive ⊢
    exact hOld hActive

theorem FlagsRegistered.step
    {a : Action}
    (hFlags : c.FlagsRegistered)
    (hStep : c.step h a = some after) :
    after.FlagsRegistered := by
  refine step_keeps ?_ ?_ ?_ ?_ ?_ ?_ ?_ hFlags hStep
  · intro elapsed rosNow _
    exact hFlags.of_injectors_eq rfl
  · intro n e key fault _ _ _
    exact hFlags.switches (runStart_switches c key fault n)
  · intro n e key fault _ _ _
    exact hFlags.switches (runStop_switches c key fault n)
  · intro request target _ _
    exact hFlags.switches
      (switchFault_switches c target request)
  · intro request target field updated _ hResolve _ _ hSet
    exact hFlags.sameLog (sameLog_storeValue hResolve hSet)
  · intro content newScenario _ _
    apply applyReload_state
    · intro fault _ s hState
      exact hState.registerFault fault
    · intro fault _ _ s hState
      exact hState.switches
        (activateNow_switches s fault.injectorId fault)
    · intro fault _ callback delay _ _ s hState
      exact hState.of_injectors_eq rfl
    · have hNone : (clearScenario newScenario c).NoFlags :=
        noFlags_clearScenario newScenario
      exact hNone.flagsRegistered
  · intro subscription _ _
    exact hFlags.of_injectors_eq rfl

end Flags

/-
  A constructed controller has run no timer and has flags of
  registered faults only.
-/
theorem flagsRegistered_of_started
    {h : HashOrder String}
    {factory : InjectorConfig → Bool}
    {scenario : ScenarioConfig}
    {c : FaultController}
    (hStarted : Started h factory scenario c) :
    c.FlagsRegistered ∧
      ∀ callback, ¬ c.HasRun callback := by
  have hState :
      c.FlagsRegistered ∧
        ∀ e ∈ c.node.entities, e.cancelled = false := by
    refine started_state
      (P := fun s =>
        s.FlagsRegistered ∧
          ∀ e ∈ s.node.entities, e.cancelled = false)
      ?_ ?_ ?_ ?_ ?_ ?_ hStarted
    · intro m s hState
      refine ⟨hState.1.of_injectors_eq rfl, ?_⟩
      intro e hEntity
      rcases List.mem_append.mp hEntity with hOld | hNew
      · exact hState.2 e hOld
      · rw [List.mem_singleton.mp hNew]
    · intro config _ s hState
      refine ⟨?_, hState.2⟩
      intro key faultId hActive
      have hOld := hState.1 key faultId
      unfold isActive hasFault at *
      rw [injector?_addInjector] at hActive ⊢
      split at hActive
      · cases hActive
      · rename_i hKey
        rw [if_neg hKey]
        exact hOld hActive
    · intro fault _ s hState
      exact ⟨hState.1.registerFault fault, hState.2⟩
    · intro fault _ _ s hState
      exact
        ⟨hState.1.switches
            (activateNow_switches s fault.injectorId fault),
          hState.2⟩
    · intro fault _ callback delay _ _ s hState
      refine ⟨hState.1.of_injectors_eq rfl, ?_⟩
      intro e hEntity
      rcases List.mem_append.mp hEntity with hOld | hNew
      · exact hState.2 e hOld
      · rw [List.mem_singleton.mp hNew]
    · intro steadyNow rosNow
      refine ⟨?_, by simp⟩
      intro key faultId hActive
      cases hActive
  refine ⟨hState.1, ?_⟩
  rintro callback ⟨e, hEntity, _, hCancelled⟩
  rw [hState.2 e hEntity] at hCancelled
  cases hCancelled

------------------------------------------------------------
-- Whole Runs
------------------------------------------------------------

/-
  An undisturbed step leaves the fault ended inactive exactly
  if it does not start the fault after its end.
-/
theorem endsInactive_nodeStep_iff
    {h : HashOrder String}
    {fault : FaultConfig}
    {c after : FaultController}
    {a : Action}
    (hFlags : c.FlagsRegistered)
    (hUndisturbed : Undisturbed h fault c a)
    (hEnds : EndsInactive fault c)
    (hStep : c.nodeStep h a = some after) :
    EndsInactive fault after ↔
      StartsBeforeStop fault c a := by
  have hCallbackOnly :
      ∀ {n e},
        c.node.ready n = some e →
          (StartsBeforeStop fault c (.callback n) ↔
            StartsInTime fault c e.callback) := by
    intro n e hReady
    simp [StartsBeforeStop, hReady]
  cases took_of_step (nodeStep_eq_some_iff.mp hStep).2 with
  | advanced => exact iff_of_true hEnds True.intro
  | started hReady hCallback =>
      rw [hCallbackOnly hReady, hCallback]
      exact endsInactive_runStart_iff hReady hCallback hEnds
  | stopped hReady hCallback =>
      rw [hCallbackOnly hReady, hCallback]
      have hEnded :=
        endsInactive_runStop hFlags hReady hCallback hEnds
      exact iff_of_true hEnded True.intro
  | member hReady hCallback =>
      rw [hCallbackOnly hReady, hCallback]
      exact iff_of_true hEnds True.intro
  | unresolved => exact iff_of_true hEnds True.intro
  | @switched request target hResolve =>
      refine iff_of_true ?_ True.intro
      rw [endsInactive_of_other
        (switchFault_switches c target request) hUndisturbed]
      · exact hEnds
      · exact fun _ _ => hasRun_of_entities_eq rfl
  | refused => exact iff_of_true hEnds True.intro
  | @stored request target field updated hResolve _ _ hUpdate =>
      refine iff_of_true ?_ True.intro
      have hSame := sameLog_storeValue hResolve hUpdate
      have hRecords :=
        storeValue_records c target request updated
      rw [endsInactive_congr]
      · exact hEnds
      · exact fun _ _ => hasRun_of_entities_eq rfl
      · exact hSame.flags _ _
      · rw [hRecords.lastEvent, if_neg hUndisturbed]
  | rejected => exact iff_of_true hEnds True.intro
  | reloaded hCheck => exact absurd hCheck (hUndisturbed _)
  | delivered => exact iff_of_true hEnds True.intro

/-
  In a run without requests and reloads for the fault, it has
  ended inactive whenever both of its timers have run, exactly
  when no start timer of its id runs after the stop timer.
-/
theorem fault_ends_inactive_iff
    {h : HashOrder String}
    {factory : InjectorConfig → Bool}
    {scenario : ScenarioConfig}
    {c last : FaultController}
    {actions : List Action}
    (fault : FaultConfig)
    (hStarted : Started h factory scenario c)
    (hUndisturbed :
      Along (nodeStep h) (Undisturbed h fault) c actions)
    (hRun : run (nodeStep h) c actions = some last) :
    Throughout (nodeStep h) (EndsInactive fault) c actions ↔
      Along (nodeStep h) (StartsBeforeStop fault) c
        actions := by
  rcases flagsRegistered_of_started hStarted with
    ⟨hFlags, hNoneRan⟩
  have hInitial : EndsInactive fault c := by
    intro hStart
    exact absurd hStart (hNoneRan _)
  apply throughout_iff_along (J := FlagsRegistered) ?_ ?_
    hInitial hFlags hUndisturbed hRun
  · intro s a t hS _ hStep
    exact hS.step (nodeStep_eq_some_iff.mp hStep).2
  · intro s a t hS hQuiet hEnds hStep
    exact endsInactive_nodeStep_iff hS hQuiet hEnds hStep

end FaultController

------------------------------------------------------------
-- Both Timers Due At Once
------------------------------------------------------------

namespace FaultController.EmptyWindow

open Transition

/- A fault whose window opens and closes after a delay. -/
def fault (duration : Int) : FaultConfig where
  id := "bias"
  injectorId := "base"
  start := some 0
  duration := some duration

def scenario (duration : Int) : ScenarioConfig where
  injectors :=
    [{ id := "base", type := "odom",
       topic := some
        { inputTopic := "odom"
          outputTopic := "odom_faulty" } }]
  faults := [fault duration]

def started (duration : Int) : FaultController :=
  (construct .insertion (fun _ => true) {} 0
    (scenario duration)).state

/- The stop timer, entity 4, runs before the start timer. -/
def stopFirst : List Action :=
  [.advance 1000000 0, .callback 4, .callback 3]

/-
  Start 0 and duration 0 both become periods of 1 ms. With
  the stop timer first the fault stays active for good.
-/
theorem fault_stays_active :
    Started .insertion (fun _ => true) (scenario 0)
        (started 0) ∧
      (validateScenario .insertion (scenario 0)).ok = true ∧
      Along (nodeStep .insertion)
        (Undisturbed .insertion (fault 0)) (started 0)
        stopFirst ∧
      (run (nodeStep .insertion) (started 0) stopFirst).any
        (fun c => c.isActive "base" "bias") = true ∧
      ¬ Throughout (nodeStep .insertion)
          (EndsInactive (fault 0)) (started 0) stopFirst := by
  refine ⟨⟨0, 0, by rfl⟩, by decide, ?_, by decide, ?_⟩
  · exact ⟨True.intro, fun _ _ => ⟨True.intro, fun _ _ =>
      ⟨True.intro, fun _ _ => True.intro⟩⟩⟩
  · intro hThroughout
    have hAfter :
        (run (nodeStep .insertion) (started 0) stopFirst).any
          (fun c =>
            c.isActive "base" "bias" &&
              c.node.entities.any (fun e =>
                e.callback = .startFault "base" (fault 0) &&
                  e.cancelled) &&
              c.node.entities.any fun e =>
                e.callback = .stopFault "base" (fault 0) &&
                  e.cancelled) = true := by
      decide
    rw [Option.any_eq_true] at hAfter
    rcases hAfter with ⟨c, hRun, hState⟩
    simp only [Bool.and_eq_true, List.any_eq_true,
      decide_eq_true_eq] at hState
    rcases hState with ⟨⟨hActive, hStart⟩, hStop⟩
    have hEnds :=
      throughout_iff.mp hThroughout stopFirst [] c rfl hRun
    have hInactive := (hEnds hStart hStop).1
    change c.isActive "base" "bias" = false at hInactive
    rw [hActive] at hInactive
    cases hInactive

/- The start timer, entity 3, runs when only it is due. -/
def startFirst : List Action :=
  [ .advance 1000000 0, .callback 3,
    .advance 1000000 0, .callback 4 ]

theorem fault_ends_inactive_of_start_first :
    Throughout (nodeStep .insertion)
      (EndsInactive (fault 2)) (started 2) startFirst := by
  have hStarted :
      Started .insertion (fun _ => true) (scenario 2)
        (started 2) :=
    ⟨0, 0, by rfl⟩
  have hSome :
      (run (nodeStep .insertion) (started 2)
        startFirst).isSome = true := by
    decide
  rcases Option.isSome_iff_exists.mp hSome with ⟨last, hRun⟩
  refine (fault_ends_inactive_iff (fault 2) hStarted ?_
    hRun).mpr ?_
  · exact ⟨True.intro, fun _ _ => ⟨True.intro, fun _ _ =>
      ⟨True.intro, fun _ _ => ⟨True.intro, fun _ _ =>
        True.intro⟩⟩⟩⟩
  · decide

end FaultController.EmptyWindow
